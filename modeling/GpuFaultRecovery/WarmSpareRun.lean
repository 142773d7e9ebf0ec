import GpuFaultRecovery.WarmSpare
import GpuFaultRecovery.Run

/-!
# Reservations of warm spares

A spare carries the incident it is reserved for, and nothing else. A step that replaces nodes reserves its spares one
by one, rebinds its nodes to them, and gives them back when it fails; a workflow that ends gives back what its steps
left reserved. Whoever finds the reservation of its own incident takes it for its own, so the steps of one incident
share their spares.
-/

namespace GpuFaultRecovery

abbrev StepKey := String × Nat

/-- The workflows of a cluster: their incidents, and the nodes each of their steps replaces. -/
structure SparePlan where
  incidentOf : String → String
  stepCount : String → Nat
  nodeIds : StepKey → List String

/-- The record of a REPLACE_NODE step, as far as it names spares. -/
structure SpareRecord where
  status : WorkflowStepStatus
  activated : List String := []
  rebindings : List (String × String) := []
deriving Repr, DecidableEq

/-- How far a pass over a step is. -/
inductive SparePhase where
  | selecting (candidates : List String)
  | reserving (pending activated : List String)
  | patching (name : String) (pending activated : List String)
  | bookkeeping (activated : List String)
  | releasing (remaining : List String)
deriving Repr, DecidableEq

/-- The reservation annotations of the nodes, who wrote them, the passes under way and the records. `endings` holds
what an ended workflow still has to give back. -/
structure SpareCluster where
  reservations : String → Option String := fun _ => none
  owner : String → Option StepKey := fun _ => none
  passes : StepKey → Option SparePhase := fun _ => none
  records : StepKey → Option SpareRecord := fun _ => none
  endings : String → Option (List String) := fun _ => none

inductive SpareEvent where
  | start (step : StepKey)
  | check (step : StepKey) (name : String) (healthy : Bool)
  | select (step : StepKey) (names : List String)
  | reserve (step : StepKey)
  | patch (step : StepKey)
  | refuse (step : StepKey)
  | succeed (step : StepKey)
  | wait (step : StepKey)
  | fail (step : StepKey)
  | release (step : StepKey) (applied : Bool)
  | finish (step : StepKey) (failed : Bool)
  | giveUp (step : StepKey) (failed : Bool)
  | crash (step : StepKey)
  | finishWorkflow (workflowId : String) (succeeded : Bool)
  | releaseEnded (workflowId : String) (applied : Bool)
deriving Repr, DecidableEq

/-! ### Writes -/

namespace SpareCluster

variable (s : SpareCluster)

def setPass (step : StepKey) (phase : Option SparePhase) : SpareCluster :=
  { s with passes := fun other => if other = step then phase else s.passes other }

def setRecord (step : StepKey) (record : SpareRecord) : SpareCluster :=
  { s with records := fun other => if other = step then some record else s.records other }

/-- The patch of `_reserve_and_activate`, on a node found free. -/
def setReserved (step : StepKey) (name incidentId : String) : SpareCluster :=
  { s with
    reservations := fun other => if other = name then some incidentId else s.reservations other
    owner := fun other => if other = name then some step else s.owner other }

/-- The patch of `_release_body`: nothing, unless the node still names the incident. -/
def setReleased (name incidentId : String) (applied : Bool) : SpareCluster :=
  if applied && s.reservations name == some incidentId then
    { s with
      reservations := fun other => if other = name then none else s.reservations other
      owner := fun other => if other = name then none else s.owner other }
  else s

def setEnding (workflowId : String) (remaining : List String) : SpareCluster :=
  { s with endings := fun other => if other = workflowId then some remaining else s.endings other }

end SpareCluster

/-- Go on with the next spare, or with the bookkeeping once all are activated. -/
def reservingNext (pending activated : List String) : SparePhase :=
  if pending.isEmpty then .bookkeeping activated else .reserving pending activated

/-- `release_spare_reservations`: what the steps that did not succeed name, less what a succeeded one consumed. -/
def spareReleases (plan : SparePlan) (s : SpareCluster) (workflowId : String) : List String :=
  let records := (List.range (plan.stepCount workflowId)).filterMap fun index => s.records (workflowId, index)
  let consumed := (records.filter fun record => record.status == .succeeded).flatMap SpareRecord.activated
  let pending := (records.filter fun record => record.status != .succeeded).flatMap SpareRecord.activated
  pending.eraseDups.filter fun name => !consumed.contains name

/-- The phase a pass starts in, from the record the last one left. -/
def resumedPhase (record : Option SpareRecord) : Option SparePhase :=
  match record with
  | none => some (.selecting [])
  | some record =>
    if record.status = .waiting then
      some (if record.activated.isEmpty then .selecting [] else .bookkeeping record.activated)
    else none

/-- The record of a pass without success: a failure, or a retry that keeps what the last wait recorded. -/
def unsuccessful (record : Option SpareRecord) (failed : Bool) : SpareRecord :=
  if failed then { status := .failed } else { status := .waiting, activated := record.elim [] SpareRecord.activated }

/-! ### Events -/

/-- One event. A step has one pass at a time, and an ended workflow none; every node patch is atomic. -/
def spareStep (plan : SparePlan) (s : SpareCluster) : SpareEvent → SpareCluster
  | .start step =>
    if (s.passes step).isNone && (s.endings step.1).isNone && step.2 < plan.stepCount step.1 then
      s.setPass step (resumedPhase (s.records step))
    else s
  -- the health check of a candidate: free, or reserved for the incident
  | .check step name healthy =>
    match s.passes step with
    | some (.selecting candidates) =>
      if healthy && (s.reservations name == none || s.reservations name == some (plan.incidentOf step.1)) then
        s.setPass step (some (.selecting (name :: candidates)))
      else s
    | _ => s
  | .select step names =>
    match s.passes step with
    | some (.selecting candidates) =>
      if names.Nodup ∧ names ⊆ candidates ∧ names ≠ [] then s.setPass step (some (.reserving names [])) else s
    | _ => s
  -- the read before the patch: a reservation of the incident is taken for one's own
  | .reserve step =>
    match s.passes step with
    | some (.reserving (name :: pending) activated) =>
      match s.reservations name with
      | none => s.setPass step (some (.patching name pending activated))
      | some incidentId =>
        if incidentId = plan.incidentOf step.1 then
          s.setPass step (some (reservingNext pending (activated ++ [name])))
        else s.setPass step (some (.releasing activated.reverse))
    | _ => s
  | .patch step =>
    match s.passes step with
    | some (.patching name pending activated) =>
      match s.reservations name with
      | none =>
        (s.setReserved step name (plan.incidentOf step.1)).setPass step
          (some (reservingNext pending (activated ++ [name])))
      | some incidentId =>
        if incidentId = plan.incidentOf step.1 then
          s.setPass step (some (reservingNext pending (activated ++ [name])))
        else s.setPass step (some (.releasing activated.reverse))
    | _ => s
  -- the spare became occupied, or its check has no answer yet
  | .refuse step =>
    match s.passes step with
    | some (.reserving _ activated) => s.setPass step (some (.releasing activated.reverse))
    | some (.patching _ _ activated) => s.setPass step (some (.releasing activated.reverse))
    | _ => s
  | .succeed step =>
    match s.passes step with
    | some (.bookkeeping activated) =>
      if activated.length = (plan.nodeIds step).length then
        (s.setRecord step
          { status := .succeeded
            activated := activated
            rebindings := (plan.nodeIds step).zip activated }).setPass step none
      else s
    | _ => s
  | .wait step =>
    match s.passes step with
    | some (.bookkeeping activated) =>
      (s.setRecord step { status := .waiting, activated := activated }).setPass step none
    | _ => s
  | .fail step =>
    match s.passes step with
    | some (.bookkeeping activated) => s.setPass step (some (.releasing activated.reverse))
    | _ => s
  | .release step applied =>
    match s.passes step with
    | some (.releasing (name :: remaining)) =>
      (s.setReleased name (plan.incidentOf step.1) applied).setPass step (some (.releasing remaining))
    | _ => s
  | .finish step failed =>
    match s.passes step with
    | some (.releasing []) => (s.setRecord step (unsuccessful (s.records step) failed)).setPass step none
    | _ => s
  -- too few spares, a check without an answer, or an error outside the failover's own cleanup
  | .giveUp step failed =>
    match s.passes step with
    | some (.selecting _) => (s.setRecord step (unsuccessful (s.records step) failed)).setPass step none
    | some (.bookkeeping _) => (s.setRecord step (unsuccessful (s.records step) failed)).setPass step none
    | _ => s
  | .crash step => s.setPass step none
  | .finishWorkflow workflowId succeeded =>
    if (s.endings workflowId).isNone &&
        (List.range (plan.stepCount workflowId)).all fun index => (s.passes (workflowId, index)).isNone then
      s.setEnding workflowId (if succeeded then [] else (spareReleases plan s workflowId).reverse)
    else s
  | .releaseEnded workflowId applied =>
    match s.endings workflowId with
    | some (name :: remaining) =>
      (s.setReleased name (plan.incidentOf workflowId) applied).setEnding workflowId remaining
    | _ => s

/-- The reservation an event relies on, if it finds one of its own incident, was written for the same step; what an
ended workflow gives back was reserved by one of its own steps. -/
def reservedForStep (plan : SparePlan) (s : SpareCluster) : SpareEvent → Bool
  | .start step =>
    match s.records step with
    | some record => record.status != .waiting || record.activated.all fun name => s.owner name == some step
    | none => true
  | .reserve step =>
    match s.passes step with
    | some (.reserving (name :: _) _) =>
      s.reservations name != some (plan.incidentOf step.1) || s.owner name == some step
    | _ => true
  | .patch step =>
    match s.passes step with
    | some (.patching name _ _) => s.reservations name != some (plan.incidentOf step.1) || s.owner name == some step
    | _ => true
  | .releaseEnded workflowId _ =>
    match s.endings workflowId with
    | some (name :: _) =>
      s.reservations name != some (plan.incidentOf workflowId) || (s.owner name).any fun step => step.1 == workflowId
    | _ => true
  | _ => true

/-! ### The invariant -/

namespace SparePhase

def held : SparePhase → List String
  | .selecting _ => []
  | .reserving _ activated => activated
  | .patching _ _ activated => activated
  | .bookkeeping activated => activated
  | .releasing remaining => remaining

def names : SparePhase → List String
  | .selecting _ => []
  | .reserving pending activated => activated ++ pending
  | .patching name pending activated => activated ++ name :: pending
  | .bookkeeping activated => activated
  | .releasing remaining => remaining

end SparePhase

/-- Whoever holds a spare wrote its reservation. -/
structure SpareInv (plan : SparePlan) (s : SpareCluster) : Prop where
  reserved : ∀ name step, s.owner name = some step → s.reservations name = some (plan.incidentOf step.1)
  held : ∀ step phase, s.passes step = some phase → ∀ name ∈ phase.held, s.owner name = some step
  named : ∀ step phase, s.passes step = some phase → phase.names.Nodup
  running : ∀ step phase, s.passes step = some phase → s.endings step.1 = none ∧ step.2 < plan.stepCount step.1 ∧
    ∀ record, s.records step = some record → record.status = .waiting
  bound : ∀ step record, s.records step = some record → record.status = .succeeded →
    ∀ name ∈ record.activated, s.owner name = some step
  recorded : ∀ step record, s.records step = some record → record.activated.Nodup ∧ step.2 < plan.stepCount step.1 ∧
    (record.status = .succeeded → record.activated.length = (plan.nodeIds step).length ∧
      record.rebindings = (plan.nodeIds step).zip record.activated)
  kept : ∀ workflowId remaining, s.endings workflowId = some remaining → ∀ name ∈ remaining, ∀ index record,
    s.records (workflowId, index) = some record → record.status = .succeeded → name ∉ record.activated

section Invariant

variable {plan : SparePlan} {s : SpareCluster} {step other : StepKey} {phase : SparePhase} {record : SpareRecord}
  {name incidentId workflowId : String} {applied : Bool} {event : SpareEvent} {remaining : List String}

private theorem spareInv_start (plan : SparePlan) : SpareInv plan {} where
  reserved := fun _ _ h => by cases h
  held := fun _ _ h => by cases h
  named := fun _ _ h => by cases h
  running := fun _ _ h => by cases h
  bound := fun _ _ h => by cases h
  recorded := fun _ _ h => by cases h
  kept := fun _ _ h => by cases h

private theorem passes_setPass_eq {pass : Option SparePhase} (h : (s.setPass step pass).passes other = some phase) :
    (other = step ∧ pass = some phase) ∨ (other ≠ step ∧ s.passes other = some phase) := by
  simp only [SpareCluster.setPass] at h
  split at h
  · rename_i heq
    exact .inl ⟨heq, h⟩
  · rename_i hne
    exact .inr ⟨hne, h⟩

/-- A pass goes on to a phase whose spares it holds. -/
private theorem SpareInv.setPass (h : SpareInv plan s) (hheld : ∀ name ∈ phase.held, s.owner name = some step)
    (hnames : phase.names.Nodup)
    (hrunning : s.endings step.1 = none ∧ step.2 < plan.stepCount step.1 ∧
      ∀ record, s.records step = some record → record.status = .waiting) :
    SpareInv plan (s.setPass step (some phase)) where
  reserved := h.reserved
  held := by
    intro other phase' hpass
    rcases passes_setPass_eq hpass with ⟨rfl, heq⟩ | ⟨-, hpass⟩
    · cases heq
      exact hheld
    · exact h.held other phase' hpass
  named := by
    intro other phase' hpass
    rcases passes_setPass_eq hpass with ⟨rfl, heq⟩ | ⟨-, hpass⟩
    · cases heq
      exact hnames
    · exact h.named other phase' hpass
  running := by
    intro other phase' hpass
    rcases passes_setPass_eq hpass with ⟨rfl, -⟩ | ⟨-, hpass⟩
    · exact hrunning
    · exact h.running other phase' hpass
  bound := h.bound
  recorded := h.recorded
  kept := h.kept

private theorem SpareInv.dropPass (h : SpareInv plan s) : SpareInv plan (s.setPass step none) where
  reserved := h.reserved
  held := by
    intro other phase' hpass
    rcases passes_setPass_eq hpass with ⟨-, heq⟩ | ⟨-, hpass⟩
    · cases heq
    · exact h.held other phase' hpass
  named := by
    intro other phase' hpass
    rcases passes_setPass_eq hpass with ⟨-, heq⟩ | ⟨-, hpass⟩
    · cases heq
    · exact h.named other phase' hpass
  running := by
    intro other phase' hpass
    rcases passes_setPass_eq hpass with ⟨-, heq⟩ | ⟨-, hpass⟩
    · cases heq
    · exact h.running other phase' hpass
  bound := h.bound
  recorded := h.recorded
  kept := h.kept

private theorem SpareInv.next {phase' : SparePhase} (h : SpareInv plan s) (hpass : s.passes step = some phase)
    (hheld : ∀ name ∈ phase'.held, s.owner name = some step) (hnames : phase'.names.Nodup) :
    SpareInv plan (s.setPass step (some phase')) :=
  h.setPass hheld hnames (h.running step phase hpass)

/-- A pass ends with a record. -/
private theorem SpareInv.endPass (h : SpareInv plan s) (hpass : s.passes step = some phase)
    (hnodup : record.activated.Nodup)
    (hsucceeded : record.status = .succeeded → (∀ name ∈ record.activated, s.owner name = some step) ∧
      record.activated.length = (plan.nodeIds step).length ∧
      record.rebindings = (plan.nodeIds step).zip record.activated) :
    SpareInv plan ((s.setRecord step record).setPass step none) := by
  obtain ⟨hopen, hindex, hwaiting⟩ := h.running step phase hpass
  have hdropped : SpareInv plan (s.setPass step none) := h.dropPass
  have hrecords : ∀ other found, ((s.setRecord step record).setPass step none).records other = some found →
      (other = step ∧ found = record) ∨ (other ≠ step ∧ s.records other = some found) := by
    intro other found hfound
    simp only [SpareCluster.setRecord, SpareCluster.setPass] at hfound
    split at hfound
    · rename_i heq
      exact .inl ⟨heq, (Option.some.inj hfound).symm⟩
    · rename_i hne
      exact .inr ⟨hne, hfound⟩
  refine ⟨hdropped.reserved, hdropped.held, hdropped.named, ?_, ?_, ?_, ?_⟩
  · intro other phase' hother
    have hrunning := hdropped.running other phase' hother
    refine ⟨hrunning.1, hrunning.2.1, fun found hfound => ?_⟩
    rcases hrecords other found hfound with ⟨rfl, rfl⟩ | ⟨-, hfound⟩
    · simp [SpareCluster.setPass] at hother
    · exact hrunning.2.2 found hfound
  · intro other found hfound hstatus
    rcases hrecords other found hfound with ⟨rfl, rfl⟩ | ⟨-, hfound⟩
    · exact (hsucceeded hstatus).1
    · exact h.bound other found hfound hstatus
  · intro other found hfound
    rcases hrecords other found hfound with ⟨rfl, rfl⟩ | ⟨-, hfound⟩
    · exact ⟨hnodup, hindex, fun hstatus => (hsucceeded hstatus).2⟩
    · exact h.recorded other found hfound
  · intro workflowId remaining hending name hname index found hfound hstatus
    rcases hrecords _ found hfound with ⟨heq, rfl⟩ | ⟨-, hfound⟩
    · -- the workflow of a running pass has not ended
      rw [← heq] at hopen
      cases hopen.symm.trans hending
    · exact h.kept workflowId remaining hending name hname index found hfound hstatus

/-- A free node is reserved. -/
private theorem SpareInv.setReserved (h : SpareInv plan s) (hfree : s.reservations name = none) :
    SpareInv plan (s.setReserved step name (plan.incidentOf step.1)) := by
  have hkeeps : ∀ found other, s.owner found = some other →
      (s.setReserved step name (plan.incidentOf step.1)).owner found = some other := by
    intro found other howner
    have hne : found ≠ name := by
      rintro rfl
      rw [h.reserved found other howner] at hfree
      cases hfree
    simp only [SpareCluster.setReserved, if_neg hne]
    exact howner
  refine ⟨?_, ?_, h.named, h.running, ?_, h.recorded, h.kept⟩
  · intro found other howner
    simp only [SpareCluster.setReserved] at howner ⊢
    split at howner
    · rename_i heq
      rw [if_pos heq, ← Option.some.inj howner]
    · rename_i hne
      rw [if_neg hne]
      exact h.reserved found other howner
  · intro other phase hpass found hfound
    exact hkeeps found other (h.held other phase hpass found hfound)
  · intro other record hrecord hstatus found hfound
    exact hkeeps found other (h.bound other record hrecord hstatus found hfound)

/-- Nobody who still uses the spare is left behind when it is released. -/
structure Releasable (s : SpareCluster) (name : String) : Prop where
  passes : ∀ step phase, s.passes step = some phase → name ∉ phase.held
  records : ∀ step record, s.records step = some record → record.status = .succeeded → name ∉ record.activated

private theorem SpareInv.setReleased (h : SpareInv plan s)
    (hfree : s.reservations name = some incidentId → Releasable s name) :
    SpareInv plan (s.setReleased name incidentId applied) := by
  unfold SpareCluster.setReleased
  split
  · rename_i happlied
    simp only [Bool.and_eq_true, beq_iff_eq] at happlied
    obtain ⟨hpasses, hrecords⟩ := hfree happlied.2
    refine ⟨?_, ?_, h.named, h.running, ?_, h.recorded, h.kept⟩
    · intro found other howner
      dsimp only at howner ⊢
      split at howner
      · cases howner
      · rename_i hne
        rw [if_neg hne]
        exact h.reserved found other howner
    · intro other phase hpass found hfound
      have hne : found ≠ name := by
        rintro rfl
        exact hpasses other phase hpass hfound
      dsimp only
      rw [if_neg hne]
      exact h.held other phase hpass found hfound
    · intro other record hrecord hstatus found hfound
      have hne : found ≠ name := by
        rintro rfl
        exact hrecords other record hrecord hstatus hfound
      dsimp only
      rw [if_neg hne]
      exact h.bound other record hrecord hstatus found hfound
  · exact h

private theorem SpareInv.setEnding (h : SpareInv plan s) (hidle : ∀ index, s.passes (workflowId, index) = none)
    (hkept : ∀ name ∈ remaining, ∀ index record, s.records (workflowId, index) = some record →
      record.status = .succeeded → name ∉ record.activated) :
    SpareInv plan (s.setEnding workflowId remaining) := by
  refine ⟨h.reserved, h.held, h.named, ?_, h.bound, h.recorded, ?_⟩
  · intro other phase hpass
    have hne : other.1 ≠ workflowId := by
      rintro rfl
      cases (hidle other.2).symm.trans hpass
    refine ⟨?_, (h.running other phase hpass).2⟩
    simp only [SpareCluster.setEnding, if_neg hne]
    exact (h.running other phase hpass).1
  · intro other left hending
    simp only [SpareCluster.setEnding] at hending
    split at hending
    · rename_i heq
      cases hending
      rw [heq]
      exact hkept
    · exact h.kept other left hending

/-- A pass releases a spare it holds itself. -/
private theorem SpareInv.release (h : SpareInv plan s)
    (hpass : s.passes step = some (.releasing (name :: remaining))) :
    SpareInv plan ((s.setReleased name (plan.incidentOf step.1) applied).setPass step
      (some (.releasing remaining))) := by
  have howner : s.owner name = some step := h.held step _ hpass name (by simp [SparePhase.held])
  have hnodup : (name :: remaining).Nodup := h.named step _ hpass
  have hnext : SpareInv plan (s.setPass step (some (.releasing remaining))) :=
    h.next hpass (fun found hfound => h.held step _ hpass found (List.mem_cons_of_mem _ hfound))
      (List.nodup_cons.mp hnodup).2
  have hcomm : (s.setReleased name (plan.incidentOf step.1) applied).setPass step (some (.releasing remaining)) =
      (s.setPass step (some (.releasing remaining))).setReleased name (plan.incidentOf step.1) applied := by
    unfold SpareCluster.setReleased SpareCluster.setPass
    dsimp only
    split <;> rfl
  rw [hcomm]
  refine hnext.setReleased fun _ => ⟨fun other phase hother hmem => ?_, fun other record hrecord hstatus hmem => ?_⟩
  · rcases passes_setPass_eq hother with ⟨rfl, heq⟩ | ⟨hne, hother⟩
    · cases heq
      exact (List.nodup_cons.mp hnodup).1 hmem
    · have hsame := h.held other phase hother name hmem
      rw [howner] at hsame
      exact hne (Option.some.inj hsame).symm
  · have hsame := h.bound other record hrecord hstatus name hmem
    rw [howner] at hsame
    cases hsame
    have hwaiting := (h.running step _ hpass).2.2 record hrecord
    rw [hstatus] at hwaiting
    cases hwaiting

/-- An ended workflow gives back a spare one of its own steps reserved, and none of them consumed. -/
private theorem SpareInv.releaseEnded (h : SpareInv plan s)
    (hending : s.endings workflowId = some (name :: remaining))
    (howner : s.reservations name = some (plan.incidentOf workflowId) →
      ∃ index, s.owner name = some (workflowId, index)) :
    SpareInv plan ((s.setReleased name (plan.incidentOf workflowId) applied).setEnding workflowId remaining) := by
  have hidle : ∀ index, s.passes (workflowId, index) = none := by
    intro index
    cases hpass : s.passes (workflowId, index) with
    | none => rfl
    | some phase => cases (h.running _ phase hpass).1.symm.trans hending
  have hnext : SpareInv plan (s.setEnding workflowId remaining) :=
    h.setEnding hidle fun found hfound => h.kept workflowId _ hending found (List.mem_cons_of_mem _ hfound)
  have hcomm : (s.setReleased name (plan.incidentOf workflowId) applied).setEnding workflowId remaining =
      (s.setEnding workflowId remaining).setReleased name (plan.incidentOf workflowId) applied := by
    unfold SpareCluster.setReleased SpareCluster.setEnding
    dsimp only
    split <;> rfl
  rw [hcomm]
  refine hnext.setReleased fun hreserved => ?_
  obtain ⟨index, hindex⟩ := howner hreserved
  refine ⟨fun other phase hother hmem => ?_, fun other record hrecord hstatus hmem => ?_⟩
  · have hsame := h.held other phase hother name hmem
    rw [hindex] at hsame
    cases hsame
    cases (hidle index).symm.trans hother
  · have hsame := h.bound other record hrecord hstatus name hmem
    rw [hindex] at hsame
    cases hsame
    exact h.kept workflowId _ hending name (by simp) index record hrecord hstatus hmem

private theorem names_reservingNext (pending activated : List String) :
    (reservingNext pending activated).names = activated ++ pending ∧
    (reservingNext pending activated).held = activated := by
  unfold reservingNext
  split
  · rename_i hempty
    rw [List.isEmpty_iff.mp hempty]
    simp [SparePhase.names, SparePhase.held]
  · exact ⟨rfl, rfl⟩

private theorem SpareInv.activate {pending activated : List String} (h : SpareInv plan s)
    (hpass : s.passes step = some phase)
    (hphase : phase.names = activated ++ name :: pending ∧ phase.held = activated)
    (howner : s.owner name = some step) :
    SpareInv plan (s.setPass step (some (reservingNext pending (activated ++ [name])))) := by
  obtain ⟨hnames, hheld⟩ := names_reservingNext pending (activated ++ [name])
  refine h.next hpass ?_ ?_
  · rw [hheld]
    intro found hfound
    rcases List.mem_append.mp hfound with hfound | hfound
    · exact h.held step phase hpass found (hphase.2 ▸ hfound)
    · rw [List.mem_singleton.mp hfound]
      exact howner
  · rw [hnames, List.append_assoc]
    exact hphase.1 ▸ h.named step phase hpass

private theorem SparePhase.held_sublist_names (phase : SparePhase) : phase.held.Sublist phase.names := by
  cases phase with
  | selecting candidates => exact .refl _
  | reserving pending activated => exact List.sublist_append_left _ _
  | patching name pending activated => exact List.sublist_append_left _ _
  | bookkeeping activated => exact .refl _
  | releasing remaining => exact .refl _

private theorem SpareInv.rollback (h : SpareInv plan s) (hpass : s.passes step = some phase) :
    SpareInv plan (s.setPass step (some (.releasing phase.held.reverse))) := by
  refine h.next hpass (fun found hfound => ?_) ?_
  · exact h.held step phase hpass found (List.mem_reverse.mp hfound)
  · exact List.nodup_reverse.mpr ((h.named step phase hpass).sublist phase.held_sublist_names)

private theorem SpareInv.unsuccessful (h : SpareInv plan s) (hpass : s.passes step = some phase) (failed : Bool) :
    SpareInv plan ((s.setRecord step (unsuccessful (s.records step) failed)).setPass step none) := by
  refine h.endPass hpass ?_ ?_
  · unfold GpuFaultRecovery.unsuccessful
    split
    · exact List.nodup_nil
    · cases hrecord : s.records step with
      | none => exact List.nodup_nil
      | some record => exact (h.recorded step record hrecord).1
  · unfold GpuFaultRecovery.unsuccessful
    split <;> intro hstatus <;> cases hstatus

private theorem not_mem_spareReleases (h : SpareInv plan s) {index : Nat}
    (hname : name ∈ spareReleases plan s workflowId)
    (hrecord : s.records (workflowId, index) = some record) (hstatus : record.status = .succeeded) :
    name ∉ record.activated := by
  intro hmem
  unfold spareReleases at hname
  have hconsumed := (List.mem_filter.mp hname).2
  simp only [Bool.not_eq_true', ← Bool.not_eq_true, List.contains_iff_mem] at hconsumed
  refine hconsumed (List.mem_flatMap.mpr ⟨record, List.mem_filter.mpr ⟨?_, by simp [hstatus]⟩, hmem⟩)
  exact List.mem_filterMap.mpr ⟨index, List.mem_range.mpr (h.recorded _ record hrecord).2.1, hrecord⟩

/-- A pass that resumes a waiting record holds the spares of the record. -/
private theorem SpareInv.start (h : SpareInv plan s) (hevent : reservedForStep plan s (.start step) = true) :
    SpareInv plan (spareStep plan s (.start step)) := by
  simp only [spareStep]
  split
  · rename_i hguard
    simp only [Bool.and_eq_true, Option.isNone_iff_eq_none, decide_eq_true_eq] at hguard
    obtain ⟨⟨-, hopen⟩, hindex⟩ := hguard
    simp only [reservedForStep] at hevent
    cases hrecord : s.records step with
    | none =>
      refine h.setPass (by simp [SparePhase.held]) List.nodup_nil ⟨hopen, hindex, fun record hfound => ?_⟩
      cases hrecord.symm.trans hfound
    | some record =>
      simp only [resumedPhase]
      split
      · rename_i hstatus
        rw [hrecord] at hevent
        have howner : ∀ name ∈ record.activated, s.owner name = some step := by
          simpa [hstatus] using hevent
        have hrunning : s.endings step.1 = none ∧ step.2 < plan.stepCount step.1 ∧
            ∀ found, s.records step = some found → found.status = .waiting := by
          refine ⟨hopen, hindex, fun found hfound => ?_⟩
          cases hrecord.symm.trans hfound
          exact hstatus
        split
        · exact h.setPass (by simp [SparePhase.held]) List.nodup_nil hrunning
        · exact h.setPass howner (h.recorded step record hrecord).1 hrunning
      · exact h.dropPass
  · exact h

private theorem SpareInv.reserve (h : SpareInv plan s) (hevent : reservedForStep plan s (.reserve step) = true) :
    SpareInv plan (spareStep plan s (.reserve step)) := by
  simp only [reservedForStep] at hevent
  simp only [spareStep]
  split
  · rename_i name pending activated hpass
    rw [hpass] at hevent
    split
    · have hheld := h.held step _ hpass
      have hnames := h.named step _ hpass
      exact h.next hpass hheld hnames
    · rename_i incidentId hreserved
      split
      · rename_i hsame
        have howner : s.owner name = some step := by simpa [hreserved, hsame] using hevent
        exact h.activate hpass ⟨rfl, rfl⟩ howner
      · exact h.rollback hpass
  · exact h

private theorem SpareInv.patch (h : SpareInv plan s) (hevent : reservedForStep plan s (.patch step) = true) :
    SpareInv plan (spareStep plan s (.patch step)) := by
  simp only [reservedForStep] at hevent
  simp only [spareStep]
  split
  · rename_i name pending activated hpass
    rw [hpass] at hevent
    split
    · rename_i hfree
      have hreserved : SpareInv plan (s.setReserved step name (plan.incidentOf step.1)) := h.setReserved hfree
      refine @SpareInv.activate plan _ step _ name _ _ hreserved hpass ⟨rfl, rfl⟩ ?_
      simp [SpareCluster.setReserved]
    · rename_i incidentId hreserved
      split
      · rename_i hsame
        have howner : s.owner name = some step := by simpa [hreserved, hsame] using hevent
        exact h.activate hpass ⟨rfl, rfl⟩ howner
      · exact h.rollback hpass
  · exact h

private theorem SpareInv.finishWorkflow (h : SpareInv plan s) (succeeded : Bool) :
    SpareInv plan (spareStep plan s (.finishWorkflow workflowId succeeded)) := by
  simp only [spareStep]
  split
  · rename_i hguard
    simp only [Bool.and_eq_true, List.all_eq_true, List.mem_range, Option.isNone_iff_eq_none] at hguard
    refine h.setEnding (fun index => ?_) fun name hname index record hrecord hstatus => ?_
    · cases hpass : s.passes (workflowId, index) with
      | none => rfl
      | some phase => cases (hguard.2 index (h.running _ phase hpass).2.1).symm.trans hpass
    · split at hname
      · cases hname
      · exact not_mem_spareReleases h (List.mem_reverse.mp hname) hrecord hstatus
  · exact h

/-- Every event keeps the invariant, if the reservations it relies on are its own step's. -/
private theorem SpareInv.preserved (h : SpareInv plan s) (hevent : reservedForStep plan s event = true) :
    SpareInv plan (spareStep plan s event) := by
  cases event with
  | start step => exact h.start hevent
  | check step name healthy =>
    simp only [spareStep]
    split
    · rename_i candidates hpass
      split
      · exact h.next hpass (by simp [SparePhase.held]) List.nodup_nil
      · exact h
    · exact h
  | select step names =>
    simp only [spareStep]
    split
    · rename_i candidates hpass
      split
      · rename_i hnames
        exact h.next hpass (by simp [SparePhase.held]) hnames.1
      · exact h
    · exact h
  | reserve step => exact h.reserve hevent
  | patch step => exact h.patch hevent
  | refuse step =>
    simp only [spareStep]
    split
    · rename_i hpass
      exact h.rollback hpass
    · rename_i hpass
      exact h.rollback hpass
    · exact h
  | succeed step =>
    simp only [spareStep]
    split
    · rename_i activated hpass
      split
      · rename_i hlength
        exact h.endPass hpass (h.named step _ hpass) fun _ => ⟨h.held step _ hpass, hlength, rfl⟩
      · exact h
    · exact h
  | wait step =>
    simp only [spareStep]
    split
    · rename_i activated hpass
      exact h.endPass hpass (h.named step _ hpass) fun hstatus => by cases hstatus
    · exact h
  | fail step =>
    simp only [spareStep]
    split
    · rename_i hpass
      exact h.rollback hpass
    · exact h
  | release step applied =>
    simp only [spareStep]
    split
    · rename_i hpass
      exact h.release hpass
    · exact h
  | finish step failed =>
    simp only [spareStep]
    split
    · rename_i hpass
      exact h.unsuccessful hpass failed
    · exact h
  | giveUp step failed =>
    simp only [spareStep]
    split
    · rename_i hpass
      exact h.unsuccessful hpass failed
    · rename_i hpass
      exact h.unsuccessful hpass failed
    · exact h
  | crash step => exact h.dropPass
  | finishWorkflow workflowId succeeded => exact h.finishWorkflow succeeded
  | releaseEnded workflowId applied =>
    simp only [reservedForStep] at hevent
    simp only [spareStep]
    split
    · rename_i name remaining hending
      rw [hending] at hevent
      refine h.releaseEnded hending fun hreserved => ?_
      cases howner : s.owner name with
      | none => simp [hreserved, howner] at hevent
      | some owner =>
        have hworkflow : owner.1 = workflowId := by simpa [hreserved, howner] using hevent
        exact ⟨owner.2, by rw [← hworkflow]⟩
    · exact h

@[simp] theorem records_setReleased : (s.setReleased name incidentId applied).records = s.records := by
  unfold SpareCluster.setReleased
  split <;> rfl

private theorem records_setRecord_of_ne (hne : other ≠ step) :
    (s.setRecord step record).records other = s.records other :=
  if_neg hne

/-- Only a pass over the step writes its record. -/
private theorem records_spareStep (hidle : s.passes other = none) :
    (spareStep plan s event).records other = s.records other := by
  have hrecord : ∀ {step phase entry}, s.passes step = some phase →
      ((s.setRecord step entry).setPass step none).records other = s.records other := by
    intro step phase entry hpass
    refine records_setRecord_of_ne ?_
    rintro rfl
    cases hidle.symm.trans hpass
  cases event with
  | start step =>
    simp only [spareStep]
    split <;> rfl
  | check step name healthy =>
    simp only [spareStep]
    split
    · split <;> rfl
    · rfl
  | select step names =>
    simp only [spareStep]
    split
    · split <;> rfl
    · rfl
  | reserve step =>
    simp only [spareStep]
    split
    · split
      · rfl
      · split <;> rfl
    · rfl
  | patch step =>
    simp only [spareStep]
    split
    · split
      · rfl
      · split <;> rfl
    · rfl
  | refuse step =>
    simp only [spareStep]
    split <;> rfl
  | succeed step =>
    simp only [spareStep]
    split
    · rename_i hpass
      split
      · exact hrecord hpass
      · rfl
    · rfl
  | wait step =>
    simp only [spareStep]
    split
    · rename_i hpass
      exact hrecord hpass
    · rfl
  | fail step =>
    simp only [spareStep]
    split <;> rfl
  | release step applied =>
    simp only [spareStep]
    split
    · exact congrFun records_setReleased other
    · rfl
  | finish step failed =>
    simp only [spareStep]
    split
    · rename_i hpass
      exact hrecord hpass
    · rfl
  | giveUp step failed =>
    simp only [spareStep]
    split
    · rename_i hpass
      exact hrecord hpass
    · rename_i hpass
      exact hrecord hpass
    · rfl
  | crash step => rfl
  | finishWorkflow workflowId succeeded =>
    simp only [spareStep]
    split <;> rfl
  | releaseEnded workflowId applied =>
    simp only [spareStep]
    split
    · exact congrFun records_setReleased other
    · rfl

private theorem SpareInv.succeeded_stays (h : SpareInv plan s) (hrecord : s.records step = some record)
    (hstatus : record.status = .succeeded) : (spareStep plan s event).records step = some record := by
  rw [records_spareStep, hrecord]
  cases hpass : s.passes step with
  | none => rfl
  | some phase =>
    have hwaiting := (h.running step phase hpass).2.2 record hrecord
    rw [hstatus] at hwaiting
    cases hwaiting

end Invariant

/-! ### One spare serves one node -/

/-- A succeeded step rebound `fault` to `spare`. -/
def BoundTo (s : SpareCluster) (step : StepKey) (fault spare : String) : Prop :=
  ∃ record, s.records step = some record ∧ record.status = .succeeded ∧ (fault, spare) ∈ record.rebindings

/-- A step works with the spare: its pass has activated it, or it is bound to it. -/
def Uses (s : SpareCluster) (step : StepKey) (spare : String) : Prop :=
  (∃ phase, s.passes step = some phase ∧ spare ∈ phase.held) ∨ ∃ fault, BoundTo s step fault spare

/-- What a spare is used for: one incident, and one fault node of one step. -/
structure ServesOne (plan : SparePlan) (s : SpareCluster) : Prop where
  incident : ∀ step spare, Uses s step spare → s.reservations spare = some (plan.incidentOf step.1)
  node : ∀ step fault step' fault' spare, BoundTo s step fault spare → BoundTo s step' fault' spare →
    step = step' ∧ fault = fault'

def KeepsBound (plan : SparePlan) (s : SpareCluster) (event : SpareEvent) : Prop :=
  ∀ step fault spare, BoundTo s step fault spare →
    BoundTo (spareStep plan s event) step fault spare ∧
      (spareStep plan s event).reservations spare = some (plan.incidentOf step.1)

section OneSpare

variable {plan : SparePlan} {s : SpareCluster}

private theorem SpareInv.owner_of_bound (h : SpareInv plan s) {step : StepKey} {fault spare : String}
    (hbound : BoundTo s step fault spare) : s.owner spare = some step := by
  obtain ⟨record, hrecord, hstatus, hmem⟩ := hbound
  rw [((h.recorded step record hrecord).2.2 hstatus).2] at hmem
  exact h.bound step record hrecord hstatus spare (List.of_mem_zip hmem).2

private theorem SpareInv.servesOne (h : SpareInv plan s) : ServesOne plan s := by
  refine ⟨?_, ?_⟩
  · rintro step spare (⟨phase, hpass, hmem⟩ | ⟨fault, hbound⟩)
    · exact h.reserved spare step (h.held step phase hpass spare hmem)
    · exact h.reserved spare step (h.owner_of_bound hbound)
  · intro step fault step' fault' spare hbound hbound'
    have hsame : step = step' :=
      Option.some.inj ((h.owner_of_bound hbound).symm.trans (h.owner_of_bound hbound'))
    subst hsame
    refine ⟨rfl, ?_⟩
    obtain ⟨record, hrecord, hstatus, hmem⟩ := hbound
    obtain ⟨record', hrecord', -, hmem'⟩ := hbound'
    cases hrecord.symm.trans hrecord'
    obtain ⟨hnodup, -, hzip⟩ := h.recorded step record hrecord
    obtain ⟨hlength, hzip⟩ := hzip hstatus
    rw [hzip] at hmem hmem'
    have hsnd : (((plan.nodeIds step).zip record.activated).map Prod.snd).Nodup := by
      rw [List.map_snd_zip hlength.le]
      exact hnodup
    exact ((Prod.mk.injEq _ _ _ _).mp (List.inj_on_of_nodup_map hsnd hmem hmem' rfl)).1

private theorem SpareInv.keepsBound {event : SpareEvent} (h : SpareInv plan s)
    (hevent : reservedForStep plan s event = true) :
    KeepsBound plan s event := by
  intro step fault spare hbound
  have hafter : BoundTo (spareStep plan s event) step fault spare := by
    obtain ⟨record, hrecord, hstatus, hmem⟩ := hbound
    exact ⟨record, h.succeeded_stays hrecord hstatus, hstatus, hmem⟩
  have hnext := h.preserved hevent
  exact ⟨hafter, hnext.reserved spare step (hnext.owner_of_bound hafter)⟩

end OneSpare

/-- In every run of failovers in which each reservation that is found rather than written was written for the same
step, and an ended workflow gives back reservations of its own steps: every spare in use is reserved for the incident
that uses it, no two fault nodes are bound to one spare, and no event releases a spare that a success has bound. -/
theorem one_spare_serves_one_node (plan : SparePlan) (events : List SpareEvent)
    (hrun : Run.Along (spareStep plan) (fun s event => reservedForStep plan s event = true) {} events) :
    ServesOne plan (Run.exec (spareStep plan) {} events) ∧
      Run.Along (spareStep plan) (KeepsBound plan) {} events := by
  refine ⟨?_, ?_⟩
  · exact (Run.invariant_exec (fun _ _ h hevent => h.preserved hevent) (spareInv_start plan) hrun).servesOne
  · exact Run.along_of_invariant (fun _ _ h hevent => h.preserved hevent) (fun _ _ h hevent => h.keepsBound hevent)
      (spareInv_start plan) hrun

section TwoBranches

/-- Two branches of one workflow, and a workflow of another incident, each replacing a node. -/
private def branches : SparePlan where
  incidentOf := fun workflowId => if workflowId = "w" then "a" else "b"
  stepCount := fun _ => 2
  nodeIds := fun step => [if step.1 = "w" then (if step.2 = 0 then "n0" else "n1") else "n2"]

private def takesFree (step : StepKey) (name : String) : List SpareEvent :=
  [.start step, .check step name true, .select step [name], .reserve step, .patch step, .succeed step]

private def takesReserved (step : StepKey) (name : String) : List SpareEvent :=
  [.start step, .check step name true, .select step [name], .reserve step, .succeed step]

theorem one_spare_serves_one_node_two_incidents :
    Run.Along (spareStep branches) (fun s event => reservedForStep branches s event = true) {}
        (takesFree ("w", 0) "s0" ++ takesFree ("v", 0) "s1") ∧
      ServesOne branches (Run.exec (spareStep branches) {} (takesFree ("w", 0) "s0" ++ takesFree ("v", 0) "s1")) := by
  have hrun : Run.Along (spareStep branches) (fun s event => reservedForStep branches s event = true) {}
      (takesFree ("w", 0) "s0" ++ takesFree ("v", 0) "s1") := by decide +kernel
  exact ⟨hrun, (one_spare_serves_one_node branches _ hrun).1⟩

/-- The second branch finds the spare of the first, reserved for the incident of both, and is bound to it too; when it
fails instead, it gives the bound spare back. -/
theorem one_spare_serves_two_branches :
    (BoundTo (Run.exec (spareStep branches) {} (takesFree ("w", 0) "s" ++ takesReserved ("w", 1) "s"))
        ("w", 0) "n0" "s" ∧
      BoundTo (Run.exec (spareStep branches) {} (takesFree ("w", 0) "s" ++ takesReserved ("w", 1) "s"))
        ("w", 1) "n1" "s") ∧
    ¬ Run.Along (spareStep branches) (KeepsBound branches) {}
      (takesFree ("w", 0) "s" ++ (takesReserved ("w", 1) "s").take 4 ++
        [.fail ("w", 1), .release ("w", 1) true]) := by
  refine ⟨⟨⟨_, rfl, rfl, by decide⟩, ⟨_, rfl, rfl, by decide⟩⟩, fun hrun => ?_⟩
  have hlast := (@Run.Along.split _ _ (spareStep branches) (KeepsBound branches) {}
    (takesFree ("w", 0) "s" ++ (takesReserved ("w", 1) "s").take 4 ++ [.fail ("w", 1)])
      [.release ("w", 1) true] hrun).2.1
  obtain ⟨-, hreserved⟩ := hlast ("w", 0) "n0" "s" ⟨_, rfl, rfl, by decide⟩
  cases hreserved

end TwoBranches

end GpuFaultRecovery
