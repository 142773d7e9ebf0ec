import GpuFaultRecovery.PlanValidity

/-!
# The job restart waits for every node repair

A rewrite keeps every edge but those of the join, gives the join the tail of the new branch and drops its edges to
retired steps. Live steps of a branch stay below the join unless the dropped edge was their only way to it:
`KeepsRepairs` asks that they are also waited for by an edge the join keeps, or by the step the new branch is chained
behind.
-/

namespace GpuFaultRecovery

open DependencyGraph

/-! ### What the new branch reaches -/

section Attach

variable {steps values : List WorkflowStepSpec} {branchId : String} {dependency : Option Nat} {join i j : Nat}

private theorem mem_stepDeps_appendChain_left (hi : i < steps.length) (hj : j ∈ stepDeps steps i) :
    j ∈ stepDeps (appendChain steps values dependency branchId).1 i := by
  unfold appendChain
  rw [stepDeps_append_left hi]
  exact hj

/-- Every step of a chain waits for the one before it, the first for the dependency. -/
theorem chainPrevious_mem_stepDeps {k : Nat} (hk : k < values.length)
    (hprev : chainPrevious steps.length dependency k = some j) :
    j ∈ stepDeps (appendChain steps values dependency branchId).1 (steps.length + k) := by
  unfold appendChain
  rw [stepDeps_append_right (by omega), Nat.add_sub_cancel_left]
  exact mem_stepDeps_chainFrom.mpr ⟨_, List.getElem?_eq_getElem hk, .inr hprev⟩

/-- The tail of a chain reaches all of it, and what it was chained behind. -/
private theorem appendChain_reaches (hjoin : join < steps.length) (hne : values ≠ []) :
    (∀ k, steps.length ≤ k → k < steps.length + values.length →
      ReachesAround (stepDeps (appendChain steps values dependency branchId).1) join
        (steps.length + values.length - 1) k) ∧
      ∀ d, dependency = some d →
        ReachesAround (stepDeps (appendChain steps values dependency branchId).1) join
          (steps.length + values.length - 1) d := by
  have hpos : 0 < values.length := List.length_pos_of_ne_nil hne
  have hchain : ∀ m, m + 1 < values.length →
      steps.length + m ∈ stepDeps (appendChain steps values dependency branchId).1 (steps.length + (m + 1)) :=
    fun m hm => chainPrevious_mem_stepDeps hm rfl
  have htail : steps.length + values.length - 1 = steps.length + (values.length - 1) := by omega
  have hall : ∀ m, m < values.length →
      ReachesAround (stepDeps (appendChain steps values dependency branchId).1) join
        (steps.length + values.length - 1) (steps.length + m) := by
    intro m hm
    rw [htail]
    exact reachesAround_of_chain hjoin hchain (by omega) (by omega)
  refine ⟨fun k hk hlt => ?_, fun d hd => ?_⟩
  · obtain ⟨m, rfl⟩ := Nat.exists_eq_add_of_le hk
    exact hall m (by omega)
  · have hfirst : d ∈ stepDeps (appendChain steps values dependency branchId).1 (steps.length + 0) :=
      chainPrevious_mem_stepDeps hpos hd
    refine (hall 0 hpos).trans (.head ?_ hfirst .refl)
    omega

private theorem mem_stepDeps_gateStop {stopIndex : Option Nat} {stopIsOpen : Bool} (hi : i < steps.length)
    (hj : j ∈ stepDeps steps i) : j ∈ stepDeps (gateStop steps values branchId stopIndex stopIsOpen).1 i := by
  have hkept : j ∈ stepDeps (appendChain steps values none branchId).1 i := mem_stepDeps_appendChain_left hi hj
  unfold gateStop
  dsimp only
  split
  · dsimp only
    split
    · exact mem_stepDeps_addDependency.mpr (.inl hkept)
    · exact hkept
  · exact hkept

/-- An open STOP_WORKLOADS waits for every step put before it. -/
private theorem gateStop_reaches (hjoin : join < steps.length) {stop : Nat} (hstop : stop < steps.length)
    (hne : stop ≠ join) :
    ∀ k, steps.length ≤ k → k < steps.length + values.length →
      ReachesAround (stepDeps (gateStop steps values branchId (some stop) true).1) join stop k := by
  intro k hk hlt
  have hvalues : values ≠ [] := by
    rintro rfl
    simp only [List.length_nil] at hlt
    omega
  have hpos : 0 < values.length := List.length_pos_of_ne_nil hvalues
  have hempty : values.isEmpty = false := List.isEmpty_eq_false_iff.mpr hvalues
  have hgate : gateStop steps values branchId (some stop) true =
      (addDependency (appendChain steps values none branchId).1 stop (steps.length + values.length - 1),
        some (steps.length + values.length - 1)) := by
    simp [gateStop, appendChain, hempty]
  rw [hgate]
  have hreach : ReachesAround (stepDeps (appendChain steps values none branchId).1) join
      (steps.length + values.length - 1) k := (appendChain_reaches hjoin hvalues).1 k hk hlt
  refine .head hne (mem_stepDeps_addDependency.mpr (.inr ⟨?_, rfl, rfl⟩)) (hreach.mono fun a _ b hb => ?_)
  · rw [length_appendChain]
    omega
  · exact mem_stepDeps_addDependency.mpr (.inl hb)

variable {branch : CandidateBranch} {stopIndex predecessor : Option Nat} {stopIsOpen : Bool}

/-- The step a new branch is chained behind: the predecessor of a rewrite, else the shared STOP_WORKLOADS. -/
def attachPoint (stopIndex predecessor : Option Nat) : Option Nat := predecessor.orElse fun _ => stopIndex

private theorem mem_stepDeps_attach (hi : i < steps.length) (hj : j ∈ stepDeps steps i) :
    j ∈ stepDeps (attachCandidateBranch steps branch branchId stopIndex stopIsOpen predecessor).1 i := by
  cases predecessor with
  | some p => exact mem_stepDeps_appendChain_left hi hj
  | none =>
    have hgated : j ∈ stepDeps (gateStop steps (branch.leading stopIsOpen) branchId stopIndex stopIsOpen).1 i :=
      mem_stepDeps_gateStop hi hj
    have hlt : i < (gateStop steps (branch.leading stopIsOpen) branchId stopIndex stopIsOpen).1.length := by
      rw [length_gateStop]
      omega
    simp only [attachCandidateBranch]
    exact mem_stepDeps_appendChain_left hlt hgated

/-- The branch's tail waits for all of the branch and for what it is chained behind. -/
structure TailReaches (steps attached : List WorkflowStepSpec) (join tail : Nat) (point : Option Nat) : Prop where
  branch : ∀ k, steps.length ≤ k → k < attached.length → ReachesAround (stepDeps attached) join tail k
  point : ∀ a, point = some a → ReachesAround (stepDeps attached) join tail a

/-- The part of a branch behind the shared STOP_WORKLOADS `stop`, with the part before it. -/
private theorem tailReaches_of_stop (hjoin : join < steps.length) {stop : Nat}
    {gated : List WorkflowStepSpec} (hlen : steps.length ≤ gated.length)
    (hgated : ∀ k, steps.length ≤ k → k < gated.length → ReachesAround (stepDeps gated) join stop k) :
    ∃ tail, (appendChain gated values (some stop) branchId).2 = some tail ∧
      TailReaches steps (appendChain gated values (some stop) branchId).1 join tail (some stop) := by
  have hmono : ∀ a, a ≠ join → ∀ b ∈ stepDeps gated a,
      b ∈ stepDeps (appendChain gated values (some stop) branchId).1 a := by
    intro a _ b hb
    by_cases ha : a < gated.length
    · exact mem_stepDeps_appendChain_left ha hb
    · rw [stepDeps_of_length_le (not_lt.mp ha)] at hb
      cases hb
  by_cases hvalues : values = []
  · subst hvalues
    refine ⟨stop, rfl, fun k hk hlt => ?_, fun a ha => ?_⟩
    · rw [length_appendChain, List.length_nil, Nat.add_zero] at hlt
      exact (hgated k hk hlt).mono hmono
    · cases ha
      exact .refl
  · have hempty : values.isEmpty = false := List.isEmpty_eq_false_iff.mpr hvalues
    obtain ⟨hall, hdep⟩ := appendChain_reaches (Nat.lt_of_lt_of_le hjoin hlen) hvalues
    have hstop' := hdep stop rfl
    refine ⟨gated.length + values.length - 1, by simp [appendChain, hempty], fun k hk hlt => ?_, fun a ha => ?_⟩
    · rw [length_appendChain] at hlt
      by_cases hold : k < gated.length
      · exact hstop'.trans ((hgated k hk hold).mono hmono)
      · exact hall k (not_lt.mp hold) hlt
    · cases ha
      exact hstop'

private theorem attach_tailReaches (hjoin : join < steps.length)
    (hstop : ∀ s, stopIndex = some s → s < steps.length ∧ s ≠ join)
    (hopen : stopIsOpen = true → stopIndex.isSome = true)
    (hnew : (attachCandidateBranch steps branch branchId stopIndex stopIsOpen predecessor).1.length ≠ steps.length) :
    ∃ tail, (attachCandidateBranch steps branch branchId stopIndex stopIsOpen predecessor).2 = some tail ∧
      TailReaches steps (attachCandidateBranch steps branch branchId stopIndex stopIsOpen predecessor).1 join tail
        (attachPoint stopIndex predecessor) := by
  cases predecessor with
  | some p =>
    simp only [attachCandidateBranch] at hnew ⊢
    rw [length_appendChain] at hnew
    have hne : branch.steps ≠ [] := by
      intro hempty
      rw [hempty] at hnew
      exact hnew rfl
    have hempty : branch.steps.isEmpty = false := List.isEmpty_eq_false_iff.mpr hne
    obtain ⟨hall, hdep⟩ := appendChain_reaches hjoin hne
    refine ⟨steps.length + branch.steps.length - 1, by simp [appendChain, hempty], fun k hk hlt => ?_, hdep⟩
    rw [length_appendChain] at hlt
    exact hall k hk hlt
  | none =>
    simp only [attachCandidateBranch] at hnew ⊢
    cases stopIndex with
    | some stop =>
      obtain ⟨hlt, hne⟩ := hstop stop rfl
      have hgated : ∀ k, steps.length ≤ k →
          k < (gateStop steps (branch.leading stopIsOpen) branchId (some stop) stopIsOpen).1.length →
          ReachesAround (stepDeps (gateStop steps (branch.leading stopIsOpen) branchId (some stop) stopIsOpen).1)
            join stop k := by
        intro k hk hlt'
        rw [length_gateStop] at hlt'
        cases stopIsOpen with
        | true => exact gateStop_reaches hjoin hlt hne k hk hlt'
        | false =>
          simp only [CandidateBranch.leading, Bool.false_eq_true, if_false, List.length_nil] at hlt'
          omega
      obtain ⟨tail, htail, hreach⟩ := tailReaches_of_stop hjoin (by rw [length_gateStop]; omega) hgated
      refine ⟨tail, ?_, hreach⟩
      simp only [Option.orElse_some] at htail ⊢
      rw [htail]
      rfl
    | none =>
      have hclosed : stopIsOpen = false := by
        cases stopIsOpen with
        | false => rfl
        | true => cases hopen rfl
      subst hclosed
      have hgate : gateStop steps (branch.leading false) branchId none false = (steps, none) := by
        simp [gateStop, appendChain, CandidateBranch.leading, chainFrom]
      rw [hgate] at hnew ⊢
      simp only [Option.orElse_none] at hnew ⊢
      rw [length_appendChain] at hnew
      have hne : branch.trailing false ≠ [] := by
        intro hempty
        rw [hempty] at hnew
        exact hnew rfl
      have hempty : (branch.trailing false).isEmpty = false := List.isEmpty_eq_false_iff.mpr hne
      obtain ⟨hall, -⟩ := appendChain_reaches hjoin hne
      refine ⟨steps.length + (branch.trailing false).length - 1,
        by simp [appendChain, hempty], fun k hk hlt => ?_, ?_⟩
      · rw [length_appendChain] at hlt
        exact hall k hk hlt
      · rintro a ⟨⟩

end Attach

/-! ### Node repairs -/

/-- Whether a step belongs to a node branch; a step without a branch counts as one of `branch:initial`. -/
def WorkflowStepSpec.repairs (step : WorkflowStepSpec) : Bool :=
  !step.operation.semantics.workloadScoped && step.branchId != some "shared" && step.branchId != some "join"

/-- Whether the step at `index` belongs to a node branch. -/
def repairsAt (steps : List WorkflowStepSpec) (index : Nat) : Bool := (steps[index]?).any WorkflowStepSpec.repairs

section RepairsAt

variable {steps values : List WorkflowStepSpec} {i : Nat}

private theorem repairsAt_map_zipIdx {f : WorkflowStepSpec × Nat → WorkflowStepSpec}
    (h : ∀ step index, (f (step, index)).repairs = step.repairs) (i : Nat) :
    repairsAt (steps.zipIdx.map f) i = repairsAt steps i := by
  simp only [repairsAt, List.getElem?_map, List.getElem?_zipIdx]
  cases steps[i]? with
  | none => rfl
  | some step => simp [h]

private theorem sharedDag_eq_workloadScoped (operation : WorkflowOperation) :
    operation.semantics.sharedDag = operation.semantics.workloadScoped := by
  cases operation <;> rfl

private theorem repairsAt_normalizedSteps (existing : WorkflowRequest) (i : Nat) :
    repairsAt (normalizedSteps existing) i = repairsAt existing.officialSteps i := by
  refine repairsAt_map_zipIdx (fun step index => ?_) i
  simp only [WorkflowStepSpec.repairs, sharedDag_eq_workloadScoped]
  cases hscoped : step.operation.semantics.workloadScoped with
  | true => rfl
  | false =>
    cases hbranch : step.branchId with
    | none => decide
    | some id =>
      by_cases hempty : id = ""
      · subst hempty
        decide
      · have hkept : Option.filter (fun x => x != "") (some id) = some id := by simp [Option.filter, hempty]
        rw [hkept]
        rfl

private theorem repairsAt_terminalSuperseded (existing : WorkflowRequest) (steps : List WorkflowStepSpec)
    (terminal : List String) (replaced : List Nat) (i : Nat) :
    repairsAt (terminalSuperseded existing steps terminal replaced).1 i = repairsAt steps i := by
  unfold terminalSuperseded
  split
  · rfl
  · refine repairsAt_map_zipIdx (fun step index => ?_) i
    have hbranch : ∀ held, (suppressStep { existing with
        supersededStepIndexes :=
          sortedSet (existing.supersededStepIndexes ++ replaced) } held step index).1.branchId =
        step.branchId := by
      intro held
      unfold suppressStep
      dsimp only
      split
      · rfl
      · split
        · rfl
        · split
          · split <;> rfl
          · rfl
    unfold WorkflowStepSpec.repairs
    rw [(suppressStep_shape _ _ _ _).1, hbranch]

private theorem repairsAt_attach {branch : CandidateBranch} {branchId : String} {stopIndex predecessor : Option Nat}
    {stopIsOpen : Bool} (hi : i < steps.length) :
    repairsAt (attachCandidateBranch steps branch branchId stopIndex stopIsOpen predecessor).1 i =
      repairsAt steps i := by
  have hchain : ∀ (steps values : List WorkflowStepSpec) (dependency : Option Nat), i < steps.length →
      repairsAt (appendChain steps values dependency branchId).1 i = repairsAt steps i := by
    intro steps values dependency hi
    simp [repairsAt, appendChain, List.getElem?_append_left hi]
  have hgate : repairsAt (gateStop steps (branch.leading stopIsOpen) branchId stopIndex stopIsOpen).1 i =
      repairsAt steps i := by
    unfold gateStop
    dsimp only
    split
    · dsimp only
      split
      · rw [← hchain steps (branch.leading stopIsOpen) none hi]
        simp only [repairsAt, addDependency, List.getElem?_modify]
        generalize (appendChain steps (branch.leading stopIsOpen) none branchId).1[i]? = found
        cases found with
        | none => rfl
        | some step =>
          simp only [Option.map_eq_map, Option.map_some]
          split <;> rfl
      · exact hchain _ _ _ hi
    · exact hchain _ _ _ hi
  cases predecessor with
  | some p => exact hchain _ _ _ hi
  | none =>
    simp only [attachCandidateBranch]
    rw [hchain _ _ _ (by rw [length_gateStop]; omega), hgate]

private theorem repairsAt_reconnectJoin (tail : Option Nat) (superseded : List Nat) (i : Nat) :
    repairsAt (reconnectJoin steps tail superseded) i = repairsAt steps i := by
  simp only [repairsAt, reconnectJoin, List.getElem?_map]
  cases steps[i]? with
  | none => rfl
  | some step =>
    simp only [Option.map_some, Option.any_some]
    split
    · rename_i hop
      rw [beq_iff_eq] at hop
      simp [WorkflowStepSpec.repairs, hop, WorkflowOperation.semantics]
    · rfl

end RepairsAt

/-! ### One rewrite -/

/-- The only RESTART_WORKLOAD of a plan. -/
def JoinAt (steps : List WorkflowStepSpec) (join : Nat) : Prop :=
  ∀ i, stepOperation? steps i = some .restartWorkload ↔ i = join

section Rewrite

variable {existing candidate rewritten : WorkflowRequest} {branch : CandidateBranch} {predecessor : Option Nat}
  {replaced : List Nat} {join i j : Nat} {now : Time}

private theorem JoinAt.lt {steps : List WorkflowStepSpec} (h : JoinAt steps join) : join < steps.length := by
  have hop := (h join).mpr rfl
  unfold stepOperation? at hop
  obtain ⟨step, hstep, -⟩ := Option.map_eq_some_iff.mp hop
  exact (List.getElem?_eq_some_iff.mp hstep).1

/-- Appended steps never restart the job, and the old ones keep their operations. -/
theorem stepOperation?_attach {steps : List WorkflowStepSpec} {branchId : String} {stopIndex : Option Nat}
    {stopIsOpen : Bool} (hbranch : NoRestart branch.steps) :
    stepOperation? (attachCandidateBranch steps branch branchId stopIndex stopIsOpen predecessor).1 i =
        some .restartWorkload ↔ stepOperation? steps i = some .restartWorkload := by
  have hchain : ∀ (steps values : List WorkflowStepSpec) (dependency : Option Nat), NoRestart values →
      (stepOperation? (appendChain steps values dependency branchId).1 i = some .restartWorkload ↔
        stepOperation? steps i = some .restartWorkload) := by
    intro steps values dependency hvalues
    by_cases hi : i < steps.length
    · rw [stepOperation?_appendChain_left hi]
    · rw [not_lt] at hi
      rw [stepOperation?_appendChain_right hi]
      have hnone : stepOperation? steps i = none := by simp [stepOperation?, List.getElem?_eq_none hi]
      rw [hnone]
      exact ⟨fun h => absurd h (hvalues.stepOperation?_ne _), fun h => by cases h⟩
  have hgate : stepOperation? (gateStop steps (branch.leading stopIsOpen) branchId stopIndex stopIsOpen).1 i =
      some .restartWorkload ↔ stepOperation? steps i = some .restartWorkload := by
    unfold gateStop
    dsimp only
    split
    · dsimp only
      split
      · rw [stepOperation?_addDependency]
        exact hchain _ _ _ (hbranch.leading stopIsOpen)
      · exact hchain _ _ _ (hbranch.leading stopIsOpen)
    · exact hchain _ _ _ (hbranch.leading stopIsOpen)
  cases predecessor with
  | some p => exact hchain _ _ _ hbranch
  | none => exact (hchain _ _ _ (hbranch.trailing stopIsOpen)).trans hgate

private theorem JoinAt.branchRewrite (h : JoinAt (normalizedSteps existing) join) (hbranch : NoRestart branch.steps) :
    JoinAt (branchRewrite existing branch predecessor replaced).1 join := by
  intro i
  have hshape := terminalSuperseded_shape existing (normalizedSteps existing) branch.terminal replaced
  rw [← h i, ← stepOperation?_eq_of_shape hshape i]
  unfold GpuFaultRecovery.branchRewrite
  dsimp only
  split
  · exact stepOperation?_attach hbranch
  · rw [stepOperation?_reconnectJoin]
    exact stepOperation?_attach hbranch

private theorem repairsAt_branchRewrite (hi : i < existing.officialSteps.length) :
    repairsAt (branchRewrite existing branch predecessor replaced).1 i = repairsAt existing.officialSteps i := by
  have hlen : existing.officialSteps.length =
      (terminalSuperseded existing (normalizedSteps existing) branch.terminal replaced).1.length := by
    rw [length_eq_of_shape (terminalSuperseded_shape _ _ _ _), length_normalizedSteps]
  rw [hlen] at hi
  rw [← repairsAt_normalizedSteps,
    ← repairsAt_terminalSuperseded existing (normalizedSteps existing) branch.terminal replaced]
  unfold branchRewrite
  dsimp only
  split
  · exact repairsAt_attach hi
  · rw [repairsAt_reconnectJoin]
    exact repairsAt_attach hi

/-- The step a new branch of `existing` is chained behind. -/
def rewritePoint (existing : WorkflowRequest) (predecessor : Option Nat) : Option Nat :=
  attachPoint (stopState existing (normalizedSteps existing)).1 predecessor

/-- A rewrite keeps every edge but the join's. -/
private theorem mem_stepDeps_branchRewrite (hjoin : JoinAt (normalizedSteps existing) join)
    (hbranch : NoRestart branch.steps) (hne : i ≠ join) (hj : j ∈ stepDeps (normalizedSteps existing) i) :
    j ∈ stepDeps (branchRewrite existing branch predecessor replaced).1 i := by
  have hshape := terminalSuperseded_shape existing (normalizedSteps existing) branch.terminal replaced
  have hi : i < (terminalSuperseded existing (normalizedSteps existing) branch.terminal replaced).1.length := by
    by_contra hout
    rw [length_eq_of_shape hshape] at hout
    rw [stepDeps_of_length_le (not_lt.mp hout)] at hj
    cases hj
  rw [← stepDeps_eq_of_shape hshape] at hj
  unfold branchRewrite
  dsimp only
  split
  · exact mem_stepDeps_attach hi hj
  · refine mem_stepDeps_reconnectJoin.mpr (.inl ⟨fun hop => ?_, mem_stepDeps_attach hi hj⟩)
    rw [stepOperation?_attach hbranch, stepOperation?_eq_of_shape hshape] at hop
    exact hne ((hjoin i).mp hop)

private theorem stopState_spec {s : Nat} (h : (stopState existing (normalizedSteps existing)).1 = some s)
    (hjoin : JoinAt (normalizedSteps existing) join) : s < (normalizedSteps existing).length ∧ s ≠ join := by
  obtain ⟨hlt, hop⟩ := firstWith_eq_some h
  refine ⟨hlt, ?_⟩
  rintro rfl
  rw [(hjoin s).mpr rfl] at hop
  cases hop

theorem isSome_of_stopState (h : (stopState existing (normalizedSteps existing)).2 = true) :
    (stopState existing (normalizedSteps existing)).1.isSome = true := by
  simp only [stopState, Option.any_eq_true] at h ⊢
  obtain ⟨s, hs, -⟩ := h
  rw [hs]
  rfl

private theorem TailReaches.reconnectJoin {steps attached : List WorkflowStepSpec} {tail : Nat} {point : Option Nat}
    (h : TailReaches steps attached join tail point) (hjoin : JoinAt attached join) (superseded : List Nat) :
    tail ∈ stepDeps (reconnectJoin attached (some tail) superseded) join ∧
      TailReaches steps (reconnectJoin attached (some tail) superseded) join tail point := by
  have hmono : ∀ a, a ≠ join → ∀ b ∈ stepDeps attached a,
      b ∈ stepDeps (GpuFaultRecovery.reconnectJoin attached (some tail) superseded) a := by
    intro a ha b hb
    exact mem_stepDeps_reconnectJoin.mpr (.inl ⟨fun hop => ha ((hjoin a).mp hop), hb⟩)
  refine ⟨mem_stepDeps_reconnectJoin.mpr (.inr ⟨(hjoin join).mpr rfl, .inr rfl⟩), fun k hk hlt => ?_, fun a ha => ?_⟩
  · rw [length_reconnectJoin] at hlt
    exact (h.branch k hk hlt).mono hmono
  · exact (h.point a ha).mono hmono

/-- A rewrite that appends nothing keeps the join's edges; one that does keeps those to steps it does not retire and
gives the join the branch's tail. -/
private theorem branchRewrite_join (predecessor : Option Nat) (replaced : List Nat)
    (hjoin : JoinAt (normalizedSteps existing) join) (hbranch : NoRestart branch.steps) :
    ((branchRewrite existing branch predecessor replaced).1.length = existing.officialSteps.length ∧
      ∀ j ∈ stepDeps (normalizedSteps existing) join,
        j ∈ stepDeps (branchRewrite existing branch predecessor replaced).1 join) ∨
    (branch.steps ≠ [] ∧
      (∀ j ∈ stepDeps (normalizedSteps existing) join, j ∉ (branchRewrite existing branch predecessor replaced).2 →
        j ∈ stepDeps (branchRewrite existing branch predecessor replaced).1 join) ∧
      ∃ tail ∈ stepDeps (branchRewrite existing branch predecessor replaced).1 join,
        TailReaches (normalizedSteps existing) (branchRewrite existing branch predecessor replaced).1 join tail
          (rewritePoint existing predecessor)) := by
  have hshape := terminalSuperseded_shape existing (normalizedSteps existing) branch.terminal replaced
  have hlen := length_eq_of_shape hshape
  have hlt : join < (terminalSuperseded existing (normalizedSteps existing) branch.terminal replaced).1.length := by
    rw [hlen]
    exact hjoin.lt
  have hjoin' : ∀ branchId stopIndex stopIsOpen, JoinAt (attachCandidateBranch
      (terminalSuperseded existing (normalizedSteps existing) branch.terminal replaced).1 branch branchId stopIndex
      stopIsOpen predecessor).1 join := by
    intro branchId stopIndex stopIsOpen i
    rw [stepOperation?_attach hbranch, stepOperation?_eq_of_shape hshape]
    exact hjoin i
  have hstop : ∀ s, (stopState existing (normalizedSteps existing)).1 = some s →
      s < (terminalSuperseded existing (normalizedSteps existing) branch.terminal replaced).1.length ∧ s ≠ join := by
    rw [hlen]
    exact fun s hs => stopState_spec hs hjoin
  unfold branchRewrite
  dsimp only
  split
  · rename_i hsame
    refine .inl ⟨by rw [hsame, hlen, length_normalizedSteps], fun j hj => ?_⟩
    rw [← stepDeps_eq_of_shape hshape] at hj
    exact mem_stepDeps_attach hlt hj
  · rename_i hnew
    refine .inr ⟨fun hempty => hnew (by rw [length_attach, hempty]; rfl), fun j hj hretired => ?_, ?_⟩
    · rw [← stepDeps_eq_of_shape hshape] at hj
      refine mem_stepDeps_reconnectJoin.mpr (.inr ⟨?_, .inl ⟨mem_stepDeps_attach hlt hj, hretired⟩⟩)
      exact (hjoin' _ _ _ join).mpr rfl
    · obtain ⟨tail, htail, hreach⟩ := attach_tailReaches hlt hstop isSome_of_stopState hnew
      rw [htail]
      obtain ⟨hmem, hreach'⟩ := hreach.reconnectJoin (hjoin' _ _ _)
        (terminalSuperseded existing (normalizedSteps existing) branch.terminal replaced).2
      refine ⟨tail, hmem, fun k hk => ?_, hreach'.point⟩
      rw [← hlen] at hk
      exact hreach'.branch k hk

/-! ### Guarded repairs -/

/-- A step of a node branch that is neither completed nor superseded. -/
def LiveRepair (workflow : WorkflowRequest) (index : Nat) : Prop :=
  repairsAt workflow.officialSteps index = true ∧ index ∉ workflow.completedStepIndexes ∧
    index ∉ workflow.supersededStepIndexes

/-- The join waits for every live node repair. -/
def RepairsGuarded (workflow : WorkflowRequest) (join : Nat) : Prop :=
  ∀ index, LiveRepair workflow index → DependsOn (stepDeps workflow.officialSteps) join index

/-- A live repair behind an edge the join loses is also behind one it keeps, or behind what the branch is chained
to. -/
def KeepsWaiting (existing : WorkflowRequest) (join : Nat) (branch : CandidateBranch) (predecessor : Option Nat)
    (replaced : List Nat) : Prop :=
  let retired := (terminalSuperseded existing (normalizedSteps existing) branch.terminal replaced).2
  branch.steps ≠ [] →
    ∀ dropped ∈ stepDeps existing.officialSteps join, dropped ∈ retired →
      ∀ index, LiveRepair existing index → index ∉ retired →
        ReachesAround (stepDeps existing.officialSteps) join dropped index →
        ∃ kept, ((kept ∈ stepDeps existing.officialSteps join ∧ kept ∉ retired) ∨
            rewritePoint existing predecessor = some kept) ∧
          ReachesAround (stepDeps existing.officialSteps) join kept index

/-- `KeepsWaiting` of the branch a rewrite appends. -/
def PlanRewrite.KeepsRepairs (existing : WorkflowRequest) (join : Nat) (rewrite : PlanRewrite) : Prop :=
  ∀ candidate predecessor replaced candidate' branch,
    rewrite.target existing = some (candidate, predecessor, replaced) →
    inheritTerminalQuarantine existing candidate = .ok candidate' →
    candidateBranch candidate' predecessor existing.dagRevision = .ok branch →
    KeepsWaiting existing join branch predecessor replaced

/-- The rewritten plan guards every live repair. -/
private theorem branchRewrite_guards (hdag : existing.dagEnabled = true)
    (hjoin : JoinAt (normalizedSteps existing) join)
    (hbranch : NoRestart branch.steps) (hguard : RepairsGuarded existing join)
    (hkeeps : KeepsWaiting existing join branch predecessor replaced)
    (hrepairs : repairsAt (branchRewrite existing branch predecessor replaced).1 i = true)
    (hcompleted : i ∉ existing.completedStepIndexes) (hsuperseded : i ∉ existing.supersededStepIndexes)
    (hretired : i ∉ (branchRewrite existing branch predecessor replaced).2) :
    DependsOn (stepDeps (branchRewrite existing branch predecessor replaced).1) join i := by
  have hdeps := stepDeps_normalizedSteps_of_dag hdag
  have hmono : ∀ a, a ≠ join → ∀ b ∈ stepDeps existing.officialSteps a,
      b ∈ stepDeps (branchRewrite existing branch predecessor replaced).1 a := by
    intro a ha b hb
    rw [← hdeps] at hb
    exact mem_stepDeps_branchRewrite hjoin hbranch ha hb
  have hreached : ∀ d, d ∈ stepDeps (branchRewrite existing branch predecessor replaced).1 join →
      ReachesAround (stepDeps existing.officialSteps) join d i →
      DependsOn (stepDeps (branchRewrite existing branch predecessor replaced).1) join i :=
    fun d hd hpath => dependsOn_iff.mpr ⟨d, hd, (hpath.mono hmono).reaches⟩
  have hold : i < existing.officialSteps.length →
      ∃ d ∈ stepDeps existing.officialSteps join, ReachesAround (stepDeps existing.officialSteps) join d i := by
    intro hi
    rw [repairsAt_branchRewrite hi] at hrepairs
    exact (hguard i ⟨hrepairs, hcompleted, hsuperseded⟩).around
  have hlt : i < (branchRewrite existing branch predecessor replaced).1.length := by
    by_contra hout
    rw [repairsAt, List.getElem?_eq_none (not_lt.mp hout)] at hrepairs
    cases hrepairs
  rcases branchRewrite_join predecessor replaced hjoin hbranch with
    ⟨hlen, hsame⟩ | ⟨hne, hkept, tail, htail, hreach⟩
  · rw [hlen] at hlt
    obtain ⟨d, hd, hpath⟩ := hold hlt
    rw [← hdeps] at hd
    exact hreached d (hsame d hd) hpath
  · by_cases hi : i < existing.officialSteps.length
    · obtain ⟨d, hd, hpath⟩ := hold hi
      by_cases hdropped : d ∈ (branchRewrite existing branch predecessor replaced).2
      · have hlive : LiveRepair existing i := by
          rw [repairsAt_branchRewrite hi] at hrepairs
          exact ⟨hrepairs, hcompleted, hsuperseded⟩
        obtain ⟨kept, hkept', hpath'⟩ := hkeeps hne d hd hdropped i hlive hretired hpath
        rcases hkept' with ⟨hmem, hnot⟩ | hpoint
        · rw [← hdeps] at hmem
          exact hreached kept (hkept kept hmem hnot) hpath'
        · have hpoint' := (hreach.point kept hpoint).trans (hpath'.mono hmono)
          exact dependsOn_iff.mpr ⟨tail, htail, hpoint'.reaches⟩
      · rw [← hdeps] at hd
        exact hreached d (hkept d hd hdropped) hpath
    · have hnew := hreach.branch i (by rw [length_normalizedSteps]; omega) hlt
      exact dependsOn_iff.mpr ⟨tail, htail, hnew.reaches⟩

end Rewrite

/-! ### Runs of rewrites -/

section Runs

variable {existing : WorkflowRequest} {join : Nat}

/-- A job DAG with one join, which waits for every live repair. -/
structure GuardedDag (join : Nat) (workflow : WorkflowRequest) : Prop where
  dag : workflow.dagEnabled = true
  joinAt : JoinAt workflow.officialSteps join
  guarded : RepairsGuarded workflow join

def PlanRewrite.branches : PlanRewrite → Bool
  | .adopt | .widen _ _ _ => false
  | .append _ | .replace _ _ _ | .successor _ _ => true

private theorem JoinAt.of_shape {steps steps' : List WorkflowStepSpec} (h : JoinAt steps join)
    (hshape : planShape steps' = planShape steps) : JoinAt steps' join := by
  intro i
  rw [stepOperation?_eq_of_shape hshape]
  exact h i

private theorem GuardedDag.rewriteStep (h : GuardedDag join existing) {rewrite : PlanRewrite × Time}
    (hkind : rewrite.1.branches = true) (hkeeps : rewrite.1.KeepsRepairs existing join) :
    GuardedDag join (rewriteStep existing rewrite) := by
  unfold GpuFaultRecovery.rewriteStep
  split
  · split
    · rename_i rewritten hok
      rcases PlanRewrite.apply_ok hok with rfl | ⟨hadopt, -⟩ | ⟨candidate, nodeId, gpuUuids, hwiden, -⟩ |
        ⟨candidate, predecessor, replaced, htarget, hok⟩
      · exact h
      · rw [hadopt] at hkind
        cases hkind
      · rw [hwiden] at hkind
        cases hkind
      · rcases appendParallelJobBranch_ok hok with rfl | ⟨candidate', branch, action, hinherit, hbranch, rfl⟩
        · exact h
        · have hnorestart := noRestart_of_candidateBranch hbranch
          have hjoin := h.joinAt.of_shape (planShape_normalizedSteps_of_dag h.dag)
          refine ⟨rfl, hjoin.branchRewrite hnorestart, fun i hlive => ?_⟩
          obtain ⟨hrepairs, hcompleted, hsuperseded⟩ := hlive
          simp only [appendedRow, mem_sortedSet, List.mem_append, not_or, List.mem_filter, not_and] at hsuperseded
          refine branchRewrite_guards h.dag hjoin hnorestart h.guarded
            (hkeeps candidate predecessor replaced candidate' branch htarget hinherit hbranch) hrepairs hcompleted
            hsuperseded.1 fun hretired => ?_
          have hnot := hsuperseded.2 hretired
          simp only [Bool.not_eq_true', Bool.not_eq_false, List.contains_iff_mem] at hnot
          exact hcompleted hnot
    · exact h
  · exact h

/-- In every state a run of branch rewrites reaches, the join waits for every live repair, if each rewrite meets
`KeepsRepairs`. -/
theorem job_restart_waits_for_repairs {start : WorkflowRequest} {join : Nat} {rewrites : List (PlanRewrite × Time)}
    (hstart : GuardedDag join start)
    (h : Run.Along GpuFaultRecovery.rewriteStep
      (fun workflow rewrite => rewrite.1.branches = true ∧ rewrite.1.KeepsRepairs workflow join) start rewrites) :
    ∀ reached rest, rewrites = reached ++ rest →
      RepairsGuarded (Run.exec GpuFaultRecovery.rewriteStep start reached) join := by
  intro reached rest hrewrites
  subst hrewrites
  have hstep : ∀ workflow (rewrite : PlanRewrite × Time), GuardedDag join workflow →
      rewrite.1.branches = true ∧ rewrite.1.KeepsRepairs workflow join →
      GuardedDag join (GpuFaultRecovery.rewriteStep workflow rewrite) := by
    intro workflow rewrite hguarded hrewrite
    exact hguarded.rewriteStep hrewrite.1 hrewrite.2
  exact (Run.invariant_exec hstep hstart h.split.1).guarded

end Runs

section SupportTicket

private def repairDag : WorkflowRequest :=
  { requestId := "w", status := .running, dagEnabled := true
    officialSteps :=
      [{ operation := .resetGpu, nodeIds := ["n1"], branchId := some "branch:n1" },
        { operation := .restoreScheduling, nodeIds := ["n1"], branchId := some "branch:n1",
          dependsOnStepIndexes := [0] },
        { operation := .restartWorkload, nodeIds := ["n1", "n2"], branchId := some "join",
          dependsOnStepIndexes := [1] }] }

private def supportTicket : WorkflowRequest :=
  { requestId := "c", status := .pending, officialSteps := [{ operation := .escalateSupport, nodeIds := ["n1"] }] }

private def ticketed : WorkflowRequest := Run.exec rewriteStep repairDag [(.append supportTicket, 0)]

private theorem repairDag_guarded : GuardedDag 2 repairDag := by
  have hrestore : 1 ∈ stepDeps repairDag.officialSteps 2 := by decide
  have hreset : 0 ∈ stepDeps repairDag.officialSteps 1 := by decide
  refine ⟨rfl, fun i => ?_, fun i hlive => ?_⟩
  · rcases i with _ | _ | _ | i
    · decide
    · decide
    · decide
    · simp [stepOperation?, repairDag]
  · rcases i with _ | _ | _ | i
    · exact .head hrestore (.single hreset)
    · exact .single hrestore
    · exact absurd hlive.1 (by decide)
    · exact absurd hlive.1 (by simp [repairsAt, repairDag])

/-- A support ticket for a node retires the readmission of the node; the reset in front of it stays live, and the
restart no longer waits for it. -/
theorem support_ticket_unguards_reset : GuardedDag 2 repairDag ∧ joinAcceptsNewBranch repairDag 0 = true ∧
    LiveRepair ticketed 0 ∧ ¬ DependsOn (stepDeps ticketed.officialSteps) 2 0 := by
  refine ⟨repairDag_guarded, by decide, ⟨by decide, by decide, by decide⟩, fun h => ?_⟩
  have hmem : 0 ∈ [2, 3] := h.mem_of_closed (by decide) (by simp)
  simp at hmem

/-- Queued behind the node's branch instead, the ticket keeps the reset in front of the restart. -/
theorem job_restart_waits_for_repairs_queued :
    RepairsGuarded (Run.exec rewriteStep repairDag [(.successor supportTicket "n1", 0)]) 2 := by
  refine @job_restart_waits_for_repairs repairDag 2 [(.successor supportTicket "n1", 0)] repairDag_guarded
    ⟨⟨rfl, ?_⟩, trivial⟩ _ [] (List.append_nil _).symm
  intro candidate predecessor replaced candidate' branch htarget _ _ _ dropped hdropped _ index _ _ hpath
  have hqueued : PlanRewrite.target repairDag (.successor supportTicket "n1") = some (supportTicket, some 1, []) := by
    decide
  rw [hqueued] at htarget
  cases htarget
  have hone : dropped = 1 := by
    have hdeps : stepDeps repairDag.officialSteps 2 = [1] := by decide
    rw [hdeps, List.mem_singleton] at hdropped
    exact hdropped
  subst hone
  exact ⟨1, .inr rfl, hpath⟩

end SupportTicket

end GpuFaultRecovery
