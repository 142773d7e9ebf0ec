import GpuFaultRecovery.SettledPlan

/-!
# What a ready step still waits for

Over the events of `executorStep` the row stays settled, and with it every row a pass holds, as long as no event
strands a step: the rewrites that give steps up, a restore run ahead of the cursor, a quiesce taken over, a merge that
rewires the step in flight. On a settled row the loop selects no step with an ancestor that is still open. A
withdrawal strands steps by itself: it keeps the readmission of a cordoned node, gives up the validation in front of
it, and leaves the reset in front of that in flight.
-/

namespace GpuFaultRecovery

open DependencyGraph

/-! ### Taking a quiesce over -/

/-- What a claim takes over strands nothing: the quiesce it completes is covered or not waited for, and the reboot it
puts a restore behind is still to come. -/
def AdoptionSettles (isSafety : Bool) (row : WorkflowRequest) (predecessor : Option WorkflowRequest) : Prop :=
  ∀ previous, predecessor = some previous →
    match quiesceAdoption row previous with
    | none => True
    | some (.inherit index _) => Retirable (planDeps isSafety row) (resolvedSet row) {index}
    | some (.restoreAfter rebootIndex _) => isSafety = false → rebootIndex ∉ resolvedSet row

section Adoption

variable {row previous : WorkflowRequest} {predecessor : Option WorkflowRequest} {isSafety : Bool} {now : Time}
  {i j : Nat}
  {predecessorId : String} {rebootIndex : Nat} {cleanup : WorkflowStepSpec}

/-- What is inherited is a step of the row; a restore waits for the reboot alone. -/
private theorem quiesceAdoption_spec {adoption : QuiesceAdoption} (h : quiesceAdoption row previous = some adoption) :
    match adoption with
    | .inherit index _ => index < row.officialSteps.length
    | .restoreAfter rebootIndex cleanup => cleanup.dependsOnStepIndexes = [rebootIndex] := by
  unfold quiesceAdoption at h
  split at h
  · cases h
  dsimp only at h
  split at h
  · cases h
  split at h
  · obtain ⟨index, hindex, rfl⟩ := Option.map_eq_some_iff.mp h
    exact (List.findIdx?_eq_some_iff_getElem.mp hindex).1
  · split at h
    · cases h
    · split at h
      · cases h
      · obtain ⟨restore, -, rfl⟩ := Option.map_eq_some_iff.mp h
        rfl

/-- The edges once a restore stands between the reboot and what waits for it. -/
private theorem edge_of_restoreAfterReboot (hcleanup : cleanup.dependsOnStepIndexes = [rebootIndex])
    (h : j ∈ stepDeps (restoreAfterReboot row predecessorId rebootIndex cleanup now).officialSteps i) :
    j ∈ planDeps false row i ∨ (rebootIndex ∈ planDeps false row i ∧ j = row.officialSteps.length) ∨
      (i = row.officialSteps.length ∧ j = rebootIndex) := by
  have hold : planDeps false row i = ((row.officialSteps[i]?).map fun step =>
      if row.dagEnabled then step.dependsOnStepIndexes else if i = 0 then [] else [i - 1]).getD [] := by
    rw [planDeps, if_neg Bool.false_ne_true, stepDeps, getElem?_normalizedSteps]
    cases row.officialSteps[i]? <;> rfl
  rw [hold]
  unfold restoreAfterReboot at h
  by_cases hi : i < row.officialSteps.length
  · rw [stepDeps_append_left (by simpa using hi), stepDeps] at h
    simp only [List.getElem?_map, List.getElem?_zipIdx, List.getElem?_eq_getElem hi, Option.map_some,
      Option.getD_some, Nat.zero_add] at h ⊢
    split at h
    · exact .inl h
    · obtain ⟨value, hvalue, rfl⟩ := List.mem_map.mp h
      by_cases hreboot : value = rebootIndex
      · rw [if_pos hreboot]
        exact .inr (.inl ⟨hreboot ▸ hvalue, rfl⟩)
      · rw [if_neg hreboot]
        exact .inl hvalue
  · rw [stepDeps_append_right (by simpa using hi)] at h
    cases hk : i - row.officialSteps.length with
    | zero =>
      have hj : j ∈ cleanup.dependsOnStepIndexes := by simpa [stepDeps, hk] using h
      rw [hcleanup] at hj
      exact .inr (.inr ⟨by omega, List.mem_singleton.mp hj⟩)
    | succ k => simp [stepDeps, hk] at h

/-- A restore put behind a reboot that is still to come changes nothing below a resolved step. -/
private theorem RowSettled.restoreAfterReboot (h : RowSettled isSafety row)
    (hcleanup : cleanup.dependsOnStepIndexes = [rebootIndex])
    (hreboot : isSafety = false → rebootIndex ∉ resolvedSet row) :
    RowSettled isSafety (restoreAfterReboot row predecessorId rebootIndex cleanup now) := by
  cases isSafety with
  | true => exact ⟨h.phase, h.pending, h.settled, nofun, nofun⟩
  | false =>
    have hreboot := hreboot rfl
    refine ⟨h.phase, h.pending, ?_, fun _ i hi => ?_, nofun⟩
    · have hdeps : planDeps false (GpuFaultRecovery.restoreAfterReboot row predecessorId rebootIndex cleanup now) =
          stepDeps (GpuFaultRecovery.restoreAfterReboot row predecessorId rebootIndex cleanup now).officialSteps :=
        planDeps_of_dag rfl false
      rw [hdeps]
      have hrange := h.inRange rfl
      have hkept : ∀ x ∈ resolvedSet row, (∀ y ∈ planDeps false row x, y ∈ resolvedSet row) → ∀ y,
          y ∈ stepDeps (GpuFaultRecovery.restoreAfterReboot row predecessorId rebootIndex cleanup now).officialSteps
            x → y ∈ planDeps false row x := by
        intro x hx hnext y hy
        rcases edge_of_restoreAfterReboot hcleanup hy with hold | ⟨hwaits, -⟩ | ⟨rfl, -⟩
        · exact hold
        · exact absurd (hnext _ hwaits) hreboot
        · exact absurd (hrange _ hx) (lt_irrefl _)
      refine settled_of_rewire (fun x hx hnext _ => hkept x hx hnext) fun i hi j hj hjr => ?_
      rcases edge_of_restoreAfterReboot hcleanup hj with hold | ⟨-, rfl⟩ | ⟨-, rfl⟩
      · have hcovered := h.settled i hi j hold hjr
        exact ⟨hcovered, hkept j hjr fun y hy => hcovered y (.single hy)⟩
      · exact absurd (hrange _ hjr) (lt_irrefl _)
      · exact absurd hjr hreboot
    · have hlt := h.inRange rfl i hi
      simp only [GpuFaultRecovery.restoreAfterReboot, List.length_append, List.length_map, List.length_zipIdx]
      omega

private theorem AdoptionSettles.adopted (h : AdoptionSettles isSafety row predecessor)
    (hrow : RowSettled isSafety row) :
    RowSettled isSafety (adoptQuiesceHandoff row predecessor now) := by
  unfold adoptQuiesceHandoff
  split
  · exact hrow
  · rename_i previous
    have hsettles := h previous rfl
    split
    · exact hrow
    · rename_i index evidence hadoption
      rw [hadoption] at hsettles
      refine hrow.retire (.of_shape rfl id rfl rfl rfl) ?_ hsettles fun _ i hi => ?_
      · ext i
        simp only [resolvedSet, WorkflowRequest.resolvedStepIndexes, inheritQuiesce, Set.mem_ofPred_eq,
          List.mem_append, mem_sortedSet, List.mem_singleton, Set.mem_union, Set.mem_singleton_iff]
        tauto
      · rw [hi]
        exact quiesceAdoption_spec hadoption
    · rename_i rebootIndex cleanup hadoption
      rw [hadoption] at hsettles
      exact hrow.restoreAfterReboot (quiesceAdoption_spec hadoption) hsettles

end Adoption

/-! ### The other rewrites of a pass -/

section Passes

variable {row row' : WorkflowRequest} {isSafety : Bool} {step : WorkflowStepSpec} {steps : List WorkflowStepSpec}
  {failureIndex : Nat} {outcome : StepOutcome} {now : Time} {i j : Nat}

private theorem RowSettled.executesSafetySteps (h : RowSettled isSafety row) :
    row.executesSafetySteps = isSafety := by
  unfold WorkflowRequest.executesSafetySteps
  rw [h.phase]
  cases isSafety with
  | true => rfl
  | false =>
    have hstatus : row.status ≠ .safetyPending := fun hs => Bool.false_ne_true (h.pending hs)
    simp [hstatus]

private theorem RowSettled.executedSteps (h : RowSettled isSafety row) :
    row.executedSteps = phaseSteps isSafety row := by
  rw [WorkflowRequest.executedSteps, h.executesSafetySteps]
  rfl

private theorem stepDeps_append_free (steps : List WorkflowStepSpec) (hstep : step.dependsOnStepIndexes = []) :
    stepDeps (steps ++ [step]) = stepDeps steps := by
  funext i
  by_cases hi : i < steps.length
  · exact stepDeps_append_left hi
  · rw [not_lt] at hi
    rw [stepDeps_append_right hi, stepDeps_of_length_le hi]
    cases hk : i - steps.length with
    | zero => simpa [stepDeps] using hstep
    | succ k => simp [stepDeps]

private theorem edge_of_flat_append (hflat : row.dagEnabled = false) (hflat' : row'.dagEnabled = false)
    (hofficial : row'.officialSteps = row.officialSteps ++ [step]) (h : j ∈ planDeps false row' i) :
    j ∈ planDeps false row i ∨ (i = row.officialSteps.length ∧ j + 1 = row.officialSteps.length) := by
  obtain ⟨hi, rfl⟩ := mem_stepDeps_normalizedSteps_of_flat hflat' h
  rw [hofficial, List.length_append, List.length_singleton] at hi
  by_cases hlt : j + 1 < row.officialSteps.length
  · left
    rw [planDeps, if_neg Bool.false_ne_true, stepDeps, getElem?_normalizedSteps, List.getElem?_eq_getElem hlt]
    simp [hflat]
  · exact .inr (by omega)

private theorem RowSettled.withCompensationStep (h : RowSettled isSafety row) (hstep : step.dependsOnStepIndexes = [])
    (hlast : isSafety = false → row.dagEnabled = false → ∀ p, p + 1 = row.officialSteps.length → p ∈ resolvedSet row →
      Covered (planDeps false row) (resolvedSet row) p) :
    RowSettled isSafety (withCompensationStep row step now) ∧
      Grows isSafety row (withCompensationStep row step now) := by
  have hphase := h.executesSafetySteps
  cases isSafety with
  | true =>
    have hdeps : planDeps true (GpuFaultRecovery.withCompensationStep row step now) = planDeps true row := by
      have happend := stepDeps_append_free row.safetySteps hstep
      simpa [planDeps, GpuFaultRecovery.withCompensationStep, hphase] using happend
    refine ⟨⟨h.phase, h.pending, ?_, fun hfalse => ?_, fun hflat => ?_⟩, ?_, id⟩
    · rw [hdeps]
      exact h.settled
    · cases hfalse
    · rw [hdeps]
      exact h.flat hflat
    · simp [phaseSteps, GpuFaultRecovery.withCompensationStep, hphase]
  | false =>
    have hofficial :
        (GpuFaultRecovery.withCompensationStep row step now).officialSteps = row.officialSteps ++ [step] := by
      simp [GpuFaultRecovery.withCompensationStep, hphase]
    have hedge : ∀ i j, j ∈ planDeps false (GpuFaultRecovery.withCompensationStep row step now) i →
        j ∈ planDeps false row i ∨
          (row.dagEnabled = false ∧ i = row.officialSteps.length ∧ j + 1 = row.officialSteps.length) := by
      intro i j hj
      cases hdag : row.dagEnabled with
      | true =>
        have hdag' : (GpuFaultRecovery.withCompensationStep row step now).dagEnabled = true := hdag
        rw [planDeps_of_dag hdag', phaseSteps, if_neg Bool.false_ne_true, hofficial,
          stepDeps_append_free _ hstep] at hj
        rw [planDeps_of_dag hdag]
        exact .inl hj
      | false =>
        have hdag' : (GpuFaultRecovery.withCompensationStep row step now).dagEnabled = false := hdag
        rcases edge_of_flat_append hdag hdag' hofficial hj with hold | hnew
        · exact .inl hold
        · exact .inr ⟨rfl, hnew⟩
    have hrange := h.inRange rfl
    have hkept : ∀ x ∈ resolvedSet row, ∀ y ∈ planDeps false (GpuFaultRecovery.withCompensationStep row step now) x,
        y ∈ planDeps false row x := by
      intro x hx y hy
      rcases hedge x y hy with hold | ⟨-, rfl, -⟩
      · exact hold
      · exact absurd (hrange _ hx) (lt_irrefl _)
    refine ⟨⟨h.phase, h.pending, ?_, fun _ i hi => ?_, fun hflat i j hj => ?_⟩, ?_, id⟩
    · refine settled_of_rewire (fun x hx _ _ => hkept x hx) fun i hi j hj hjr => ⟨?_, hkept j hjr⟩
      rcases hedge i j hj with hold | ⟨hflat, -, hlen⟩
      · exact h.settled i hi j hold hjr
      · exact hlast rfl hflat j hlen hjr
    · have hlt := hrange i hi
      rw [hofficial, List.length_append]
      omega
    · rcases hedge i j hj with hold | ⟨-, rfl, hlen⟩
      · exact h.flat hflat i j hold
      · omega
    · simp [phaseSteps, hofficial]

private theorem compensationRestoreStep_free (h : compensationRestoreStep row steps = some step) :
    step.dependsOnStepIndexes = [] := by
  unfold compensationRestoreStep at h
  split at h
  · cases h
  · cases h
    rfl

private theorem applyWorkloadWithdrawal_plan (row : WorkflowRequest) (steps : List WorkflowStepSpec) (now : Time) :
    SamePlan row (applyWorkloadWithdrawal row steps now) ∧
      resolvedSet (applyWorkloadWithdrawal row steps now) =
        resolvedSet row ∪ {i | i ∈ withdrawnStepIndexes row steps} := by
  unfold applyWorkloadWithdrawal
  split
  · rename_i hnone
    refine ⟨.of_shape rfl id rfl rfl rfl, ?_⟩
    rw [List.isEmpty_iff.mp hnone]
    simp
  · exact ⟨samePlan_retireSteps row _ now, resolvedSet_retireSteps row _ now⟩

private theorem deferJobFailure_plan (h : deferJobFailure row steps failureIndex outcome now = some row') :
    SamePlan row row' ∧
      resolvedSet row' = resolvedSet row ∪ {i | i ∈ deferredStepIndexes row steps failureIndex} := by
  unfold deferJobFailure at h
  split at h
  · cases h
  · cases h
    exact ⟨.of_shape rfl id rfl rfl rfl, resolvedSet_retireSteps row _ now⟩

private theorem indexes_lt {p : WorkflowStepSpec × Nat → Bool} (h : i ∈ (steps.zipIdx.filter p).map Prod.snd) :
    i < steps.length := by
  obtain ⟨step, hstep, -⟩ := mem_zipIdx_indexes h
  exact (List.getElem?_eq_some_iff.mp hstep).1

private theorem RowSettled.covered_of_first (h : RowSettled isSafety row) (hflat : row.dagEnabled = false) {n : Nat}
    (hfirst : ((List.range n).find? fun index => !row.resolvedStepIndexes.contains index) = some i) :
    Covered (planDeps isSafety row) (resolvedSet row) i := by
  obtain ⟨-, -, hbefore⟩ := List.find?_range_eq_some.mp hfirst
  have hlower : ∀ k, DependsOn (planDeps isSafety row) i k → k < i := by
    intro k hk
    induction hk with
    | single hd => exact h.flat hflat _ _ hd
    | tail _ hd ih => exact (h.flat hflat _ _ hd).trans ih
  intro k hk
  have hresolved := hbefore k (hlower k hk)
  simpa [resolvedSet] using hresolved

end Passes

/-! ### Events that strand nothing -/

def Executor.flying (s : Executor) : Option Nat :=
  (s.pass.bind ExecutorPass.inFlight).bind fun d => if d.ahead then none else some d.index

/-- The condition on one event under which it strands no step, read off the state before it. -/
def EventSettles (s : Executor) : ExecutorEvent → Prop
  | .claim predecessor _ => s.pass = none → AdoptionSettles s.row.safetyOnly s.row predecessor
  | .abort => True
  | .withdraw _ _ => True
  | .merge merge _ => MergeSettles s.row.safetyOnly s.row s.flying merge
  | .scan _ => s.freePass ≠ none → s.row.workloadWithdrawnAt ≠ none →
    Retirable (planDeps s.row.safetyOnly s.row) (resolvedSet s.row)
      {i | i ∈ withdrawnStepIndexes s.row (phaseSteps s.row.safetyOnly s.row)}
  | .dispatch => ∀ pass index rest, s.freePass = some pass → pass.batch = index :: rest →
    s.row.mergeRevision ≠ pass.held.mergeRevision → Answerable s.row.safetyOnly s.row index
  | .restoreAhead _ => ∀ pass, s.freePass = some pass → pass.held.safetyOnly = false → pass.held.dagEnabled = false →
    ∀ p, p + 1 = pass.held.officialSteps.length → p ∈ resolvedSet pass.held →
      Covered (planDeps false pass.held) (resolvedSet pass.held) p
  | .record outcome verdict _ _ now => ∀ pass d, s.pass = some pass → pass.inFlight = some d →
    match outcome.status with
    | .waiting => True
    | .failed => d.ahead = false → (pass.inDag = true ∨ d.isSafety = false) →
      FailureSettles s.row.safetyOnly (recordAttempt s.row d.step d.index outcome now) d.index outcome verdict now
    | .succeeded => d.ahead = true →
      Retirable (planDeps s.row.safetyOnly s.row) (resolvedSet s.row) {d.index}
  | .endBatch _ => ∀ pass index outcome, s.freePass = some pass → pass.failure = some (index, outcome) →
    siblingsInFlight pass.held (Executor.batchFailure pass index outcome).1 ≠ [] →
      Retirable (planDeps pass.held.safetyOnly pass.held) (resolvedSet pass.held)
        {i | i ∈ deferredStepIndexes pass.held pass.steps (Executor.batchFailure pass index outcome).1}
  | .withholdRestart index _ _ => ∀ pass, s.freePass = some pass →
    Retirable (planDeps pass.held.safetyOnly pass.held) (resolvedSet pass.held) {index}

/-- What a pass knows and holds, on a settled row. -/
structure PassSettled (isSafety : Bool) (row : WorkflowRequest) (pass : ExecutorPass) : Prop where
  phase : pass.isSafety = isSafety
  held : RowSettled isSafety pass.held
  inStep : InStep row pass
  grows : Grows isSafety pass.held row
  inDag : pass.inDag = true → pass.held.dagEnabled = true
  steps : pass.steps.length ≤ (phaseSteps isSafety pass.held).length
  flat : pass.inDag = false → pass.batch = [] ∨ (pass.inFlight = none ∧
    ∃ i, pass.batch = [i] ∧ Covered (planDeps isSafety pass.held) (resolvedSet pass.held) i)
  flight : ∀ d, pass.inFlight = some d →
    d.index < (phaseSteps isSafety row).length ∧ (d.ahead = false → Answerable isSafety row d.index)

/-- A settled row under a pass that knows what it holds. -/
structure ExecutorSettled (isSafety : Bool) (s : Executor) : Prop where
  row : RowSettled isSafety s.row
  pass : ∀ pass, s.pass = some pass → PassSettled isSafety s.row pass

section Run

variable {s : Executor} {pass pass' : ExecutorPass} {isSafety : Bool} {row' : WorkflowRequest} {now : Time}

private theorem PassSettled.of_held (hrow : RowSettled isSafety row') (hphase : pass'.isSafety = isSafety)
    (hheld : pass'.held = row') (hdag : pass'.inDag = true → row'.dagEnabled = true)
    (hsteps : pass'.steps.length ≤ (phaseSteps isSafety row').length)
    (hbatch : pass'.inDag = false → pass'.batch = [])
    (hflight : pass'.inFlight = none) : PassSettled isSafety row' pass' where
  phase := hphase
  held := by rw [hheld]; exact hrow
  inStep := .inl hheld
  grows := by rw [hheld]; exact .refl isSafety row'
  inDag h := by rw [hheld]; exact hdag h
  steps := by rw [hheld]; exact hsteps
  flat h := .inl (hbatch h)
  flight d hd := by rw [hflight] at hd; cases hd

private theorem ExecutorSettled.drop (h : ExecutorSettled isSafety s) :
    ExecutorSettled isSafety { s with pass := none } := by
  refine ⟨h.row, fun pass hpass => ?_⟩
  cases hpass

private theorem PassSettled.batch_of_flight {row : WorkflowRequest} {d : Dispatched}
    (h : PassSettled isSafety row pass) (hd : pass.inFlight = some d) (hflat : pass.inDag = false) :
    pass.batch = [] := by
  rcases h.flat hflat with hbatch | ⟨hnone, -⟩
  · exact hbatch
  · rw [hnone] at hd
    cases hd

private theorem ExecutorSettled.claim (h : ExecutorSettled isSafety s) (predecessor : Option WorkflowRequest)
    (hsettles : EventSettles s (.claim predecessor now)) : ExecutorSettled isSafety (s.claim predecessor now) := by
  unfold Executor.claim
  split
  · exact h
  · rename_i hfree
    simp only [Bool.or_eq_true, not_or, Option.isSome_iff_ne_none, ne_eq, not_not] at hfree
    have hclaimed : RowSettled isSafety { s.row with status := .running, updatedAt := now } := by
      refine h.row.congr (.of_shape rfl (fun hstatus => ?_) rfl rfl rfl) rfl
      cases hstatus
    have hadoption : AdoptionSettles isSafety { s.row with status := .running, updatedAt := now } predecessor := by
      have hsettles := hsettles hfree.1
      rw [h.row.phase] at hsettles
      exact hsettles
    have hrow : RowSettled isSafety
        (adoptQuiesceHandoff { s.row with status := .running, updatedAt := now } predecessor now) :=
      hadoption.adopted hclaimed
    refine ⟨hrow, fun pass hpass => ?_⟩
    obtain rfl := Option.some.inj hpass
    refine .of_held hrow h.row.executesSafetySteps rfl (fun hdag => ?_) (Nat.zero_le _) (fun _ => rfl) rfl
    cases hdag

private theorem ExecutorSettled.withdraw (h : ExecutorSettled isSafety s) (reason : String) :
    ExecutorSettled isSafety (s.withdraw reason now) := by
  have hplan : SamePlan s.row (s.withdraw reason now).row ∧
      resolvedSet (s.withdraw reason now).row = resolvedSet s.row := by
    unfold Executor.withdraw
    split <;> exact ⟨.of_shape rfl id rfl rfl rfl, rfl⟩
  have hpass : (s.withdraw reason now).pass = s.pass := by
    unfold Executor.withdraw
    split <;> rfl
  refine ⟨h.row.congr hplan.1 hplan.2, fun pass hp => ?_⟩
  rw [hpass] at hp
  have hold := h.pass pass hp
  refine { hold with
    inStep := hold.inStep.withdraw reason
    grows := hold.grows.trans (hplan.1.grows isSafety)
    flight := fun d hd => ?_ }
  rw [hplan.1.length]
  exact ⟨(hold.flight d hd).1, fun hahead => ((hold.flight d hd).2 hahead).congr hplan.1 hplan.2⟩

private theorem ExecutorSettled.merge (h : ExecutorSettled isSafety s) (merge : Merge)
    (hsettles : EventSettles s (.merge merge now)) :
    ExecutorSettled isSafety { s with row := mergedRow s.row merge now } := by
  have hsettles : MergeSettles isSafety s.row s.flying merge := by
    have hphase := h.row.phase
    exact hphase ▸ hsettles
  have hmerged := @MergeSettles.merged s.row isSafety s.flying merge now hsettles h.row
  obtain ⟨hrow, hgrows, hflying⟩ := hmerged
  refine ⟨hrow, fun pass hp => ?_⟩
  have hold := h.pass pass hp
  refine { hold with
    inStep := hold.inStep.merge merge
    grows := hold.grows.trans hgrows
    flight := fun d hd => ⟨lt_of_lt_of_le (hold.flight d hd).1 hgrows.length, fun hahead => ?_⟩ }
  refine hflying d.index ?_ (hold.flight d hd).1 ((hold.flight d hd).2 hahead)
  simp [Executor.flying, show s.pass = some pass from hp, hd, hahead]

private theorem scannedRow_settled (h : ExecutorSettled isSafety s) (hphase : pass.isSafety = isSafety)
    (hsettles : s.row.workloadWithdrawnAt ≠ none → Retirable (planDeps isSafety s.row) (resolvedSet s.row)
      {i | i ∈ withdrawnStepIndexes s.row (phaseSteps isSafety s.row)}) :
    RowSettled isSafety (s.scannedRow pass now) ∧ SamePlan s.row (s.scannedRow pass now) := by
  unfold Executor.scannedRow
  split
  · rename_i hgone
    obtain ⟨hplan, hresolved⟩ := applyWorkloadWithdrawal_plan s.row (phaseSteps pass.isSafety s.row) now
    rw [hphase] at hresolved hplan ⊢
    refine ⟨h.row.retire hplan hresolved (hsettles (Option.isSome_iff_ne_none.mp hgone)) fun hofficial i hi => ?_,
      hplan⟩
    have hlt := indexes_lt hi
    rw [hofficial] at hlt
    exact hlt
  · exact ⟨h.row, .of_shape rfl id rfl rfl rfl⟩

private theorem phaseSteps_scannedRow (s : Executor) (pass : ExecutorPass) (now : Time) (isSafety : Bool) :
    phaseSteps isSafety (s.scannedRow pass now) = phaseSteps isSafety s.row := by
  unfold Executor.scannedRow applyWorkloadWithdrawal
  split
  · split <;> rfl
  · rfl

private theorem ExecutorSettled.scan (h : ExecutorSettled isSafety s) (hfree : s.freePass = some pass)
    (hsettles : EventSettles s (.scan now)) : ExecutorSettled isSafety (s.scan pass now) := by
  obtain ⟨hpass, hflight⟩ := freePass_eq hfree
  have hphase := (h.pass pass hpass).phase
  have hsettles := hsettles (by rw [hfree]; exact Option.some_ne_none pass)
  rw [h.row.phase] at hsettles
  obtain ⟨hrow, hplan⟩ := @scannedRow_settled s pass isSafety now h hphase hsettles
  unfold Executor.scan
  dsimp only
  split
  · exact h.drop
  · refine ⟨hrow, fun pass' hpass' => ?_⟩
    obtain rfl := Option.some.inj hpass'
    refine
      { phase := hphase, held := hrow, inStep := .inl rfl, grows := .refl isSafety _, inDag := id, steps := ?_,
        flat := fun hflat => ?_, flight := fun d hd => ?_ }
    · rw [hplan.length, hphase]
    · dsimp only at hflat ⊢
      rw [if_neg (by rw [hflat]; exact Bool.false_ne_true)]
      cases hfirst : (List.range (phaseSteps pass.isSafety s.row).length).find? fun index =>
          !(s.scannedRow pass now).resolvedStepIndexes.contains index with
      | none => exact .inl rfl
      | some i => exact .inr ⟨hflight, i, rfl, hrow.covered_of_first hflat hfirst⟩
    · rw [hflight] at hd
      cases hd

/-- What the loop hands out waits for nothing on the row it was read from. -/
private theorem PassSettled.covered_of_dispatchable {row : WorkflowRequest} {index : Nat} {rest : List Nat}
    (h : PassSettled isSafety row pass) (hbatch : pass.batch = index :: rest)
    (hready : Executor.dispatchable pass index = true) :
    Covered (planDeps isSafety pass.held) (resolvedSet pass.held) index := by
  cases hdag : pass.inDag with
  | false =>
    rcases h.flat hdag with hnil | ⟨-, i, hsingle, hcovered⟩
    · rw [hnil] at hbatch
      cases hbatch
    · rw [hsingle] at hbatch
      cases hbatch
      exact hcovered
  | true =>
    rw [Executor.dispatchable, if_pos hdag, dagStepIsCurrent, h.phase] at hready
    simp only [Bool.and_eq_true, Bool.not_eq_true', ← Bool.not_eq_true, List.contains_iff_mem, List.all_eq_true]
      at hready
    refine h.held.settled.covered hready.1.2 fun j hj => ?_
    rw [planDeps_of_dag (h.inDag hdag)] at hj
    exact hready.2 j hj

private theorem ExecutorSettled.dispatch (h : ExecutorSettled isSafety s) (hfree : s.freePass = some pass)
    (hsettles : EventSettles s .dispatch) : ExecutorSettled isSafety (s.dispatch pass) := by
  obtain ⟨hpass, -⟩ := freePass_eq hfree
  have hold := h.pass pass hpass
  unfold Executor.dispatch
  split
  · exact h
  · rename_i index rest hbatch
    split
    · rename_i hready
      split
      · exact h
      · rename_i step hstep
        refine ⟨h.row, fun pass' hpass' => ?_⟩
        obtain rfl := Option.some.inj hpass'
        refine { hold with flat := fun hflat => .inl ?_, flight := fun d hd => ?_ }
        · rcases hold.flat hflat with hnil | ⟨-, i, hsingle, -⟩
          · rw [hnil] at hbatch
            cases hbatch
          · rw [hsingle] at hbatch
            cases hbatch
            rfl
        · obtain rfl := Option.some.inj hd
          have hlt := (List.getElem?_eq_some_iff.mp hstep).1
          rw [hold.phase] at hlt
          refine ⟨lt_of_lt_of_le hlt hold.grows.length, fun _ => ?_⟩
          by_cases hrev : s.row.mergeRevision = pass.held.mergeRevision
          · rw [← hold.inStep.eq hrev]
            exact .inr (hold.covered_of_dispatchable hbatch hready)
          · have hanswer := hsettles pass index rest hfree hbatch hrev
            rw [h.row.phase] at hanswer
            exact hanswer
    · refine ⟨h.row, fun pass' hpass' => ?_⟩
      obtain rfl := Option.some.inj hpass'
      exact { hold with flat := fun _ => .inl rfl }

private theorem ExecutorSettled.restoreAhead (h : ExecutorSettled isSafety s) (hfree : s.freePass = some pass)
    (hsettles : EventSettles s (.restoreAhead now)) : ExecutorSettled isSafety (s.restoreAhead pass now) := by
  obtain ⟨hpass, -⟩ := freePass_eq hfree
  have hold := h.pass pass hpass
  unfold Executor.restoreAhead
  split
  · exact h
  · rename_i pick hpick
    dsimp only
    rcases compensationPick_cases hpick with ⟨hpending, -⟩ | ⟨hnone, hstep, hindex, hrow⟩
    · rw [if_pos (by rw [hpending]; rfl)]
      refine ⟨h.row, fun pass' hpass' => ?_⟩
      obtain rfl := Option.some.inj hpass'
      refine { hold with flat := fun _ => .inl rfl, flight := fun d hd => ?_ }
      obtain rfl := Option.some.inj hd
      refine ⟨?_, fun hahead => by cases hahead⟩
      have hlt := (List.getElem?_eq_some_iff.mp (pendingRestoreStep_eq_some hpending).1).1
      rw [hold.held.executedSteps] at hlt
      exact lt_of_lt_of_le hlt hold.grows.length
    · rw [if_neg (by rw [hnone]; exact Bool.false_ne_true)]
      split
      · have hlast := hsettles pass hfree
        have happended := @RowSettled.withCompensationStep pass.held isSafety pick.step now hold.held
          (compensationRestoreStep_free hstep) fun hphase => hlast (hold.held.phase.trans hphase)
        rw [← hrow] at happended
        obtain ⟨hrow', hgrows⟩ := happended
        refine ⟨hrow', fun pass' hpass' => ?_⟩
        obtain rfl := Option.some.inj hpass'
        refine
          { phase := hold.phase, held := hrow', inStep := .inl rfl, grows := .refl isSafety _,
            inDag := fun hdag => hgrows.dag (hold.inDag hdag), steps := hold.steps.trans hgrows.length,
            flat := fun _ => .inl rfl, flight := fun d hd => ?_ }
        obtain rfl := Option.some.inj hd
        refine ⟨?_, fun hahead => by cases hahead⟩
        have hget := (compensationPick_spec hpick).1
        rw [hrow'.executedSteps] at hget
        exact (List.getElem?_eq_some_iff.mp hget).1
      · exact h.drop

/-- A failed step is taken on a row with its attempt recorded. -/
private theorem ExecutorSettled.takeFailure (h : ExecutorSettled isSafety s) (hpass : s.pass = some pass)
    {d : Dispatched} (hd : pass.inFlight = some d) {attempted : WorkflowRequest} (hplan : SamePlan s.row attempted)
    (hresolved : resolvedSet attempted = resolvedSet s.row) {outcome : StepOutcome} {verdict : BranchVerdict}
    (hsettles : (pass.inDag = true ∨ d.isSafety = false) →
      FailureSettles isSafety attempted d.index outcome verdict now) :
    ExecutorSettled isSafety (s.takeFailure pass d attempted outcome verdict now) := by
  have hold := h.pass pass hpass
  have hattempted := h.row.congr hplan hresolved
  have hgrows := hold.grows.trans (hplan.grows isSafety)
  unfold Executor.takeFailure
  dsimp only
  split
  · exact h.drop
  · rename_i row htaken
    have hescalated : (pass.inDag = true ∨ d.isSafety = false) ∧
        escalateFailedBranch attempted d.index outcome verdict now = .rewritten row := by
      split at htaken
      · cases htaken
      · rename_i hloop
        refine ⟨?_, htaken⟩
        cases hdag : pass.inDag with
        | true => exact .inl rfl
        | false => exact .inr (by simpa [hdag] using hloop)
    obtain ⟨hrow, hgrows'⟩ := (hsettles hescalated.1).rewritten hattempted hescalated.2
    refine ⟨hrow, fun pass' hpass' => ?_⟩
    obtain rfl := Option.some.inj hpass'
    refine .of_held hrow hold.phase rfl (fun hdag => (hgrows.trans hgrows').dag (hold.inDag hdag)) ?_
      (hold.batch_of_flight hd) rfl
    rw [hold.phase]
  · refine ⟨hattempted, fun pass' hpass' => ?_⟩
    obtain rfl := Option.some.inj hpass'
    exact .of_held hattempted hold.phase rfl (fun hdag => hgrows.dag (hold.inDag hdag))
      (hold.steps.trans hgrows.length) (hold.batch_of_flight hd) rfl

/-- A completion is recorded on a row with its attempt recorded. -/
private theorem ExecutorSettled.takeSuccess (h : ExecutorSettled isSafety s) (hpass : s.pass = some pass)
    {d : Dispatched} (hd : pass.inFlight = some d) {attempted : WorkflowRequest} (hplan : SamePlan s.row attempted)
    (hresolved : resolvedSet attempted = resolvedSet s.row) {outcome : StepOutcome}
    {inventory : String → List String} {steps : List WorkflowStepSpec}
    (hsteps : steps.length ≤ (phaseSteps isSafety attempted).length)
    (hanswer : Retirable (planDeps isSafety s.row) (resolvedSet s.row) {d.index}) :
    ExecutorSettled isSafety (s.takeSuccess { pass with steps } d attempted outcome inventory now) := by
  have hold := h.pass pass hpass
  unfold Executor.takeSuccess
  dsimp only
  split
  · exact h.drop
  · rename_i row hrebound
    have hkept : SamePlan attempted row ∧ resolvedSet row = resolvedSet attempted := by
      split at hrebound
      · cases hrebound
        exact ⟨.of_shape rfl id rfl rfl rfl, rfl⟩
      · exact rebindNodes_plan hrebound
    have hall := (hplan.trans hkept.1).trans (samePlan_recordCompletion row d.index d.step.operation now)
    have hcompleted : RowSettled isSafety (recordCompletion row d.index d.step.operation now) := by
      refine h.row.retire hall ?_ hanswer fun hofficial i hi => ?_
      · rw [resolvedSet_recordCompletion, hkept.2, hresolved]
      · rw [hi]
        have hlt := (hold.flight d hd).1
        rw [hofficial] at hlt
        exact hlt
    refine ⟨hcompleted, fun pass' hpass' => ?_⟩
    obtain rfl := Option.some.inj hpass'
    have hgrows := hold.grows.trans (hall.grows isSafety)
    refine .of_held hcompleted hold.phase rfl (fun hdag => hgrows.dag (hold.inDag hdag)) ?_
      (hold.batch_of_flight hd) rfl
    dsimp only
    split
    · rw [hall.length, ← hplan.length]
      exact hsteps
    · rw [hold.phase]

private theorem ExecutorSettled.record (h : ExecutorSettled isSafety s) (hpass : s.pass = some pass) {d : Dispatched}
    (hd : pass.inFlight = some d) {outcome : StepOutcome} {verdict : BranchVerdict} {inventory : String → List String}
    {targets : List EvidenceTarget} (hsettles : EventSettles s (.record outcome verdict inventory targets now)) :
    ExecutorSettled isSafety (s.record pass d outcome verdict inventory targets now) := by
  have hold := h.pass pass hpass
  have hplan := samePlan_recordAttempt s.row d.step d.index outcome now
  have hattempted : RowSettled isSafety (recordAttempt s.row d.step d.index outcome now) := h.row.congr hplan rfl
  have hgrows := hold.grows.trans (hplan.grows isSafety)
  have hsettles := hsettles pass d hpass hd
  rw [h.row.phase] at hsettles
  unfold Executor.record
  dsimp only
  cases hstatus : outcome.status with
  | waiting =>
    refine ⟨hattempted, fun pass' hpass' => ?_⟩
    obtain rfl := Option.some.inj hpass'
    exact .of_held hattempted hold.phase rfl (fun hdag => hgrows.dag (hold.inDag hdag))
      (hold.steps.trans hgrows.length) (hold.batch_of_flight hd) rfl
  | failed =>
    rw [hstatus] at hsettles
    dsimp only at hsettles ⊢
    cases hahead : d.ahead with
    | true =>
      refine ⟨hattempted, fun pass' hpass' => ?_⟩
      cases hpass'
    | false => exact h.takeFailure hpass hd hplan rfl (hsettles hahead)
  | succeeded =>
    rw [hstatus] at hsettles
    dsimp only at hsettles ⊢
    have hanswer : Retirable (planDeps isSafety s.row) (resolvedSet s.row) {d.index} := by
      cases hahead : d.ahead with
      | true => exact hsettles hahead
      | false => exact h.row.settled.retirable_singleton ((hold.flight d hd).2 hahead)
    split
    · refine h.takeSuccess hpass hd (hplan.trans (samePlan_retargetEvidence _ targets)) ?_ ?_ hanswer
      · rw [resolvedSet_retargetEvidence]
        rfl
      · rw [hold.phase]
    · exact h.takeSuccess hpass hd hplan rfl (hold.steps.trans hgrows.length) hanswer

/-- A parked failure keeps the plan; if siblings are in flight it retires what is not. -/
private theorem parkedRow_plan {index : Nat} {outcome : StepOutcome}
    (h : Executor.parkedRow pass index outcome now = some row') :
    SamePlan pass.held row' ∧ (resolvedSet row' = resolvedSet pass.held ∨
      (siblingsInFlight pass.held (Executor.batchFailure pass index outcome).1 ≠ [] ∧
        resolvedSet row' = resolvedSet pass.held ∪
          {i | i ∈ deferredStepIndexes pass.held pass.steps (Executor.batchFailure pass index outcome).1})) := by
  unfold Executor.parkedRow at h
  dsimp only at h
  cases hdeferred : (if pass.inDag then deferJobFailure pass.held pass.steps
      (Executor.batchFailure pass index outcome).1 (Executor.batchFailure pass index outcome).2 now else none) with
  | some parked =>
    rw [hdeferred] at h
    cases h
    split at hdeferred
    · obtain ⟨hplan, hresolved⟩ := deferJobFailure_plan hdeferred
      refine ⟨hplan, .inr ⟨fun hnone => ?_, hresolved⟩⟩
      simp [deferJobFailure, hnone] at hdeferred
    · cases hdeferred
  | none =>
    rw [hdeferred, Option.orElse_none] at h
    split at h
    · cases h
    · cases h
      exact ⟨.of_shape rfl id rfl rfl rfl, .inl rfl⟩

private theorem ExecutorSettled.endBatch (h : ExecutorSettled isSafety s) (hfree : s.freePass = some pass)
    (hsettles : EventSettles s (.endBatch now)) : ExecutorSettled isSafety (s.endBatch pass now) := by
  obtain ⟨hpass, hflight⟩ := freePass_eq hfree
  have hold := h.pass pass hpass
  unfold Executor.endBatch
  split
  · exact h
  · rename_i index outcome hfailure
    have hsettles := hsettles pass index outcome hfree hfailure
    rw [hold.held.phase] at hsettles
    split
    · refine ⟨h.row, fun pass' hpass' => ?_⟩
      obtain rfl := Option.some.inj hpass'
      exact { hold with flat := fun _ => .inl rfl }
    · rename_i parked hparked
      obtain ⟨hplan, hresolved⟩ := parkedRow_plan hparked
      split
      · have hrow : RowSettled isSafety parked := by
          rcases hresolved with hresolved | ⟨hsiblings, hresolved⟩
          · exact hold.held.congr hplan hresolved
          · refine hold.held.retire hplan hresolved (hsettles hsiblings) fun hofficial i hi => ?_
            have hlt := lt_of_lt_of_le (indexes_lt hi) hold.steps
            rw [hofficial] at hlt
            exact hlt
        refine ⟨hrow, fun pass' hpass' => ?_⟩
        obtain rfl := Option.some.inj hpass'
        have hgrows := hplan.grows isSafety
        exact .of_held hrow hold.phase rfl (fun hdag => hgrows.dag (hold.inDag hdag))
          (hold.steps.trans hgrows.length) (fun _ => rfl) hflight
      · exact h.drop

private theorem ExecutorSettled.withholdRestart (h : ExecutorSettled isSafety s) (hfree : s.freePass = some pass)
    {index : Nat} {outcome : StepOutcome} (hsettles : EventSettles s (.withholdRestart index outcome now)) :
    ExecutorSettled isSafety (s.withholdRestart pass index outcome now) := by
  obtain ⟨hpass, hflight⟩ := freePass_eq hfree
  have hold := h.pass pass hpass
  have hsettles := hsettles pass hfree
  rw [hold.held.phase] at hsettles
  unfold Executor.withholdRestart
  split
  · exact h
  · rename_i step hstep
    split
    · exact h
    · split
      · set withheld :
          WorkflowRequest := { retireSteps (recordAttempt pass.held step index outcome now) [index] now with
          terminalFailureReason := (pass.held.terminalFailureReason.filter (· != "")).orElse fun _ => outcome.error }
        have hplan : SamePlan pass.held withheld := .of_shape rfl id rfl rfl rfl
        have hresolved : resolvedSet withheld = resolvedSet pass.held ∪ {index} := by
          have hretired := resolvedSet_retireSteps (recordAttempt pass.held step index outcome now) [index] now
          have hsingle : {i | i ∈ [index]} = ({index} : Set Nat) := by
            ext i
            simp
          rw [hsingle] at hretired
          exact hretired
        have hrow : RowSettled isSafety withheld := by
          refine hold.held.retire hplan hresolved hsettles fun hofficial i hi => ?_
          rw [hi]
          have hlt := (List.getElem?_eq_some_iff.mp hstep).1
          rw [hold.phase, hofficial] at hlt
          exact hlt
        refine ⟨hrow, fun pass' hpass' => ?_⟩
        obtain rfl := Option.some.inj hpass'
        have hgrows := hplan.grows isSafety
        exact .of_held hrow hold.phase rfl (fun hdag => hgrows.dag (hold.inDag hdag))
          (hold.steps.trans hgrows.length) (fun _ => rfl) hflight
      · exact h.drop

/-- An event that strands nothing keeps the row settled. -/
private theorem ExecutorSettled.step (h : ExecutorSettled isSafety s) {event : ExecutorEvent}
    (hsettles : EventSettles s event) :
    ExecutorSettled isSafety (executorStep s event) := by
  have hfree : ∀ (next : ExecutorPass → Executor),
      (∀ pass, s.freePass = some pass → ExecutorSettled isSafety (next pass)) →
        ExecutorSettled isSafety (s.freePass.elim s next) := by
    intro next hnext
    cases hpass : s.freePass with
    | none => exact h
    | some pass => exact hnext pass hpass
  cases event with
  | claim predecessor now => exact h.claim predecessor hsettles
  | abort => exact h.drop
  | withdraw reason now => exact h.withdraw reason
  | merge merge now => exact h.merge merge hsettles
  | scan now => exact hfree _ fun pass hpass => h.scan hpass hsettles
  | dispatch => exact hfree _ fun pass hpass => h.dispatch hpass hsettles
  | restoreAhead now => exact hfree _ fun pass hpass => h.restoreAhead hpass hsettles
  | record outcome verdict inventory targets now =>
    simp only [executorStep]
    cases hpass : s.pass with
    | none => exact h
    | some pass =>
      cases hd : pass.inFlight with
      | none =>
        simp only [Option.elim_some, hd]
        exact h
      | some d =>
        simp only [Option.elim_some, hd]
        exact h.record hpass hd hsettles
  | endBatch now => exact hfree _ fun pass hpass => h.endBatch hpass hsettles
  | withholdRestart index outcome now => exact hfree _ fun pass hpass => h.withholdRestart hpass hsettles

end Run

/-! ### What is selected -/

/-- The DAG loop selects no step while something it waits for, directly or through others, is neither completed nor
superseded. -/
def SelectsUnblocked (s : Executor) (event : ExecutorEvent) : Prop :=
  ∀ now pass, event = .scan now → (executorStep s event).pass = some pass → pass.inFlight = none → pass.inDag = true →
    ∀ i ∈ pass.batch, ∀ a, DependsOn (stepDeps pass.steps) i a →
      a ∈ pass.held.completedStepIndexes ∨ a ∈ pass.held.supersededStepIndexes

/-- A row as the planner stores it, or any row whose resolved steps come with all they wait for. -/
structure StartRow (row : WorkflowRequest) : Prop where
  pending : row.status = .safetyPending → row.safetyOnly = true
  closed : ∀ i ∈ row.resolvedStepIndexes, ∀ j ∈ planDeps row.safetyOnly row i, j ∈ row.resolvedStepIndexes
  inRange : row.safetyOnly = false → ∀ i ∈ row.resolvedStepIndexes, i < row.officialSteps.length
  flat : row.dagEnabled = false → row.safetyOnly = true → ∀ i, ∀ j ∈ stepDeps row.safetySteps i, j < i

private theorem StartRow.settled {row : WorkflowRequest} (h : StartRow row) : RowSettled row.safetyOnly row where
  phase := rfl
  pending := h.pending
  settled := settled_of_closed h.closed
  inRange := h.inRange
  flat hflat i j hj := by
    cases hphase : row.safetyOnly with
    | true =>
      rw [hphase] at hj
      exact h.flat hflat hphase i j hj
    | false =>
      rw [hphase] at hj
      have hnext := (mem_stepDeps_normalizedSteps_of_flat hflat hj).2
      omega

/-- On a settled row a scan selects unblocked steps only. -/
private theorem ExecutorSettled.selectsUnblocked {isSafety : Bool} {s : Executor} {event : ExecutorEvent}
    (h : ExecutorSettled isSafety s) (hsettles : EventSettles s event) : SelectsUnblocked s event := by
  rintro now pass rfl hpass hfree hdag i hi a ha
  have hstep := h.step hsettles
  have hscanned := hstep.pass pass hpass
  -- a pass without a step in flight has just been through the scan
  obtain ⟨before, hbefore⟩ : ∃ before, s.freePass = some before := by
    cases hnone : s.freePass with
    | some before => exact ⟨before, rfl⟩
    | none =>
      rw [executorStep, hnone, Option.elim_none] at hpass
      rw [Executor.freePass, hpass, Option.filter_some, hfree] at hnone
      cases hnone
  rw [executorStep, hbefore, Option.elim_some] at hpass
  have hphase := (h.pass before (freePass_eq hbefore).1).phase
  unfold Executor.scan at hpass
  dsimp only at hpass
  split at hpass
  · cases hpass
  obtain rfl := Option.some.inj hpass
  dsimp only at hi ha hdag
  rw [if_pos hdag, readySteps] at hi
  obtain ⟨-, hlive, hready⟩ := mem_ready.mp (List.mem_filter.mp hi).1
  have hsettled := hscanned.held.settled
  have hplan : planDeps isSafety (s.scannedRow before now) = stepDeps (phaseSteps before.isSafety s.row) := by
    rw [planDeps_of_dag hdag, phaseSteps_scannedRow, hphase]
  rw [hplan] at hsettled
  exact List.mem_append.mp (hsettled.covered hlive hready a ha)

/-- In every run whose events strand no step, every scan of the DAG loop selects unblocked steps only. -/
theorem selected_steps_unblocked {start : WorkflowRequest} {events : List ExecutorEvent} (hstart : StartRow start)
    (hrun : Run.Along executorStep EventSettles { row := start } events) :
    Run.Along executorStep SelectsUnblocked { row := start } events := by
  have hsettled : ExecutorSettled start.safetyOnly { row := start } := by
    refine ⟨hstart.settled, fun pass hpass => ?_⟩
    cases hpass
  exact Run.along_of_invariant (fun s event h hsettles => h.step hsettles)
    (fun s event h hsettles => h.selectsUnblocked hsettles) hsettled hrun

section Withdrawal

private def repairStep (operation : WorkflowOperation) (dependencies : List Nat) (branchId : String) :
    WorkflowStepSpec :=
  { operation, nodeIds := ["n1"], dependsOnStepIndexes := dependencies, branchId := some branchId }

private def resetDag : WorkflowRequest :=
  { requestId := "w", status := .pending, dagEnabled := true,
    officialSteps := [repairStep .markUnschedulable [] "branch:n1", repairStep .resetGpu [0] "branch:n1",
      repairStep .validateGpu [1] "branch:n1", repairStep .restoreScheduling [2] "branch:n1",
      repairStep .restartWorkload [3] "join"] }

private def answered (status : WorkflowStepStatus) (now : Time) : ExecutorEvent :=
  .record { status } .jobLevel (fun _ => []) [] now

private def resetStarted : List ExecutorEvent :=
  [.claim none 0, .scan 0, .dispatch, answered .succeeded 1, .scan 2, .dispatch, answered .waiting 3]

private theorem resetDag_start : StartRow resetDag :=
  ⟨by decide, by simp [resetDag, WorkflowRequest.resolvedStepIndexes],
    by simp [resetDag, WorkflowRequest.resolvedStepIndexes], fun hflat => by cases hflat⟩

/-- While the job keeps running, the readmission waits for the reset. -/
theorem selected_steps_unblocked_reset :
    StartRow resetDag ∧ Run.Along executorStep EventSettles { row := resetDag } (resetStarted ++ [.scan 4]) ∧
      Run.Along executorStep SelectsUnblocked { row := resetDag } (resetStarted ++ [.scan 4]) := by
  have hrun : Run.Along executorStep EventSettles { row := resetDag } (resetStarted ++ [.scan 4]) := by
    refine ⟨?_, fun _ hgone => absurd rfl hgone, ?_, ?_, fun _ hgone => absurd rfl hgone, ?_, fun _ _ _ _ => trivial,
      fun _ hgone => absurd rfl hgone, trivial⟩
    · rintro - previous ⟨⟩
    · intro pass index rest hfree _ hmerged
      obtain rfl := Option.some.inj hfree
      exact absurd rfl hmerged
    · intro pass d hpass hd hahead
      obtain rfl := Option.some.inj hpass
      obtain rfl := Option.some.inj hd
      cases hahead
    · intro pass index rest hfree _ hmerged
      obtain rfl := Option.some.inj hfree
      exact absurd rfl hmerged
  exact ⟨resetDag_start, hrun, selected_steps_unblocked resetDag_start hrun⟩

/-- The job is stopped while the reset is in flight. The validation behind the reset is given up, the readmission
behind the validation is kept, and the next scan selects it: the node goes back to the scheduler under a running
reset. -/
theorem readmission_selected_under_reset :
    StartRow resetDag ∧ validateDag resetDag.officialSteps = .ok () ∧
      ¬ Run.Along executorStep SelectsUnblocked { row := resetDag }
        (resetStarted ++ [.withdraw "job stopped" 4, .scan 5]) := by
  refine ⟨resetDag_start, by decide, fun hrun => ?_⟩
  obtain ⟨-, -, -, -, -, -, -, -, hscan, -⟩ := hrun
  have hblocked := hscan 5 _ rfl rfl rfl rfl 3 (by decide) 1 (.head (by decide : 2 ∈ _) (.single (by decide)))
  revert hblocked
  decide

end Withdrawal

end GpuFaultRecovery
