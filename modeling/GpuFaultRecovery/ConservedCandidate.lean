import GpuFaultRecovery.AppendedBranch
import GpuFaultRecovery.MergedPlan

/-!
# What an appended branch keeps of its candidate

The steps a candidate brings are appended in its index order, those that are put before the shared STOP_WORKLOADS
first, and every appended step waits for all appended before it. No step is lost and none is doubled; the order of a
candidate survives exactly where it agrees with the order of appending. A DAG in which a step waits for a later one
loses it.
-/

namespace GpuFaultRecovery

open DependencyGraph

/-- The candidate brings the step at `index`: it is not superseded and no shared job operation. -/
def Brought (held : WorkflowRequest) (index : Nat) : Prop :=
  ∃ step, LiveStep held index step ∧ step.operation.semantics.sharedDag = false

/-- Whether a step of the branch is put before the shared STOP_WORKLOADS. -/
def CandidateBranch.putAhead (branch : CandidateBranch) (existing : WorkflowRequest) (predecessor : Option Nat)
    (entry : WorkflowStepSpec × Nat) : Bool :=
  predecessor.isNone && stopOpen existing && branch.preStop entry

/-- The steps of a branch with their indexes in the candidate, in the order in which they are appended. -/
def appendOrder (existing : WorkflowRequest) (branch : CandidateBranch) (predecessor : Option Nat) :
    List (WorkflowStepSpec × Nat) :=
  branch.indexed.filter (branch.putAhead existing predecessor) ++
    branch.indexed.filter fun entry => !branch.putAhead existing predecessor entry

/-- Where the step of the candidate at `index` is appended. -/
def appendedAt (existing : WorkflowRequest) (branch : CandidateBranch) (predecessor : Option Nat)
    (index : Nat) : Nat :=
  existing.officialSteps.length + ((appendOrder existing branch predecessor).map Prod.snd).idxOf index

/-- `place` takes the steps a candidate brings to the appended steps, one to one, and keeps what they do and their
order. -/
structure Conserved (existing held rewritten : WorkflowRequest) (place : Nat → Nat) : Prop where
  bijective : Set.BijOn place {i | Brought held i}
    {k | existing.officialSteps.length ≤ k ∧ k < rewritten.officialSteps.length}
  same : ∀ i step, LiveStep held i step → step.operation.semantics.sharedDag = false →
    ∃ step', rewritten.officialSteps[place i]? = some step' ∧ SameAction step step'
  order : ∀ i j, Brought held i → Brought held j → WaitsFor held j i →
    DependsOn (stepDeps rewritten.officialSteps) (place j) (place i)

/-- The step of the branch at `index` is put before the shared STOP_WORKLOADS. -/
def AheadOfStop (existing : WorkflowRequest) (branch : CandidateBranch) (predecessor : Option Nat)
    (index : Nat) : Prop :=
  ∃ step, (step, index) ∈ branch.indexed ∧ branch.putAhead existing predecessor (step, index) = true

/-- A step the candidate puts first has the lower index, where the stop does not part the two, and is put before the
stop if the other one is. -/
def OrderAgrees (existing held : WorkflowRequest) (branch : CandidateBranch) (predecessor : Option Nat) : Prop :=
  ∀ i j, Brought held i → Brought held j → WaitsFor held j i →
    (AheadOfStop existing branch predecessor j → AheadOfStop existing branch predecessor i) ∧
      ((AheadOfStop existing branch predecessor i → AheadOfStop existing branch predecessor j) → i < j)

/-! ### The order of appending -/

/-- Positions in an increasing list. -/
private theorem idxOf_lt_idxOf_iff {l : List Nat} (hl : l.Pairwise (· < ·)) {i j : Nat} (hi : i ∈ l) (hj : j ∈ l) :
    l.idxOf i < l.idxOf j ↔ i < j := by
  induction l with
  | nil => cases hi
  | cons a l ih =>
    rw [List.pairwise_cons] at hl
    by_cases hia : a = i
    · by_cases hja : a = j
      · subst hia hja
        simp
      · have hmem : j ∈ l := by grind
        have hlt := hl.1 j hmem
        rw [List.idxOf_cons_eq l hia, List.idxOf_cons_ne l hja]
        omega
    · have himem : i ∈ l := by grind
      by_cases hja : a = j
      · have hlt := hl.1 i himem
        rw [List.idxOf_cons_eq l hja, List.idxOf_cons_ne l hia]
        omega
      · have hjmem : j ∈ l := by grind
        have hrest := ih hl.2 himem hjmem
        rw [List.idxOf_cons_ne l hja, List.idxOf_cons_ne l hia]
        omega

section Order

variable {existing held : WorkflowRequest} {branch : CandidateBranch} {predecessor : Option Nat} {revision i j : Nat}
  {step : WorkflowStepSpec}

private theorem indexed_of_candidateBranch (h : candidateBranch held predecessor revision = .ok branch) :
    branch.indexed = (liveSteps held).filter fun entry => !entry.1.operation.semantics.sharedDag := by
  unfold candidateBranch at h
  obtain ⟨quarantined, -, h⟩ := bind_ok h
  cases Except.ok.inj h
  rfl

private theorem mem_indexed_iff (h : candidateBranch held predecessor revision = .ok branch) :
    (step, i) ∈ branch.indexed ↔ LiveStep held i step ∧ step.operation.semantics.sharedDag = false := by
  rw [indexed_of_candidateBranch h, List.mem_filter, mem_liveSteps]
  simp

private theorem indexed_increasing (h : candidateBranch held predecessor revision = .ok branch) :
    (branch.indexed.map Prod.snd).Pairwise (· < ·) := by
  rw [indexed_of_candidateBranch h, liveSteps]
  have hsub : ((held.officialSteps.zipIdx.filter fun entry => !held.supersededStepIndexes.contains entry.2).filter
      fun entry => !entry.1.operation.semantics.sharedDag).Sublist held.officialSteps.zipIdx :=
    List.filter_sublist.trans List.filter_sublist
  refine List.Pairwise.sublist (hsub.map Prod.snd) ?_
  rw [List.zipIdx_map_snd]
  exact List.pairwise_lt_range'

private theorem mem_appendOrder {entry : WorkflowStepSpec × Nat} :
    entry ∈ appendOrder existing branch predecessor ↔ entry ∈ branch.indexed := by
  unfold appendOrder
  rw [List.mem_append, List.mem_filter, List.mem_filter]
  cases branch.putAhead existing predecessor entry with
  | true => simp
  | false => simp

variable (existing) in
private theorem brought_iff (h : candidateBranch held predecessor revision = .ok branch) :
    Brought held i ↔ i ∈ (appendOrder existing branch predecessor).map Prod.snd := by
  simp only [Brought, List.mem_map, mem_appendOrder, Prod.exists, exists_eq_right, mem_indexed_iff h]

private theorem aheadOfStop_iff : AheadOfStop existing branch predecessor i ↔
    i ∈ (branch.indexed.filter (branch.putAhead existing predecessor)).map Prod.snd := by
  simp [AheadOfStop, List.mem_map, List.mem_filter]

/-- One step is appended before another if the stop parts them that way, or has the lower index on one side of it. -/
private theorem appendedAt_lt_iff (h : candidateBranch held predecessor revision = .ok branch) (hi : Brought held i)
    (hj : Brought held j) :
    appendedAt existing branch predecessor i < appendedAt existing branch predecessor j ↔
      (AheadOfStop existing branch predecessor j → AheadOfStop existing branch predecessor i) ∧
        ((AheadOfStop existing branch predecessor i → AheadOfStop existing branch predecessor j) → i < j) := by
  rw [brought_iff existing h, appendOrder, List.map_append, List.mem_append] at hi hj
  rw [aheadOfStop_iff, aheadOfStop_iff, appendedAt, appendedAt, appendOrder, List.map_append]
  have hincreasing := indexed_increasing h
  have hahead : ((branch.indexed.filter (branch.putAhead existing predecessor)).map Prod.snd).Pairwise (· < ·) :=
    hincreasing.sublist (List.filter_sublist.map Prod.snd)
  have hrest : ((branch.indexed.filter fun entry => !branch.putAhead existing predecessor entry).map
      Prod.snd).Pairwise (· < ·) :=
    hincreasing.sublist (List.filter_sublist.map Prod.snd)
  generalize (branch.indexed.filter (branch.putAhead existing predecessor)).map Prod.snd = ahead at *
  generalize (branch.indexed.filter fun entry => !branch.putAhead existing predecessor entry).map Prod.snd = rest at *
  by_cases hia : i ∈ ahead
  · by_cases hja : j ∈ ahead
    · have hiff := idxOf_lt_idxOf_iff hahead hia hja
      rw [List.idxOf_append_of_mem hia, List.idxOf_append_of_mem hja]
      simp only [hia, hja, imp_self, true_imp_iff, true_and]
      omega
    · have hlt := List.idxOf_lt_length_of_mem hia
      rw [List.idxOf_append_of_mem hia, List.idxOf_append_of_notMem hja]
      simp [hia, hja]
      omega
  · by_cases hja : j ∈ ahead
    · have hlt := List.idxOf_lt_length_of_mem hja
      rw [List.idxOf_append_of_notMem hia, List.idxOf_append_of_mem hja]
      simp [hia, hja]
      omega
    · have hiff := idxOf_lt_idxOf_iff hrest (hi.resolve_left hia) (hj.resolve_left hja)
      rw [List.idxOf_append_of_notMem hia, List.idxOf_append_of_notMem hja]
      simp [hia, hja]
      omega

end Order

/-! ### The appended steps -/

section Appended

variable {existing held : WorkflowRequest} {branch : CandidateBranch} {predecessor : Option Nat} {replaced : List Nat}
  {revision m i : Nat} {step : WorkflowStepSpec} {entry : WorkflowStepSpec × Nat}

private theorem rewriteAhead_eq : rewriteAhead existing branch predecessor =
    (branch.indexed.filter (branch.putAhead existing predecessor)).map Prod.fst := by
  unfold rewriteAhead CandidateBranch.ahead CandidateBranch.leading CandidateBranch.putAhead
  cases predecessor with
  | some p => simp
  | none =>
    cases stopOpen existing with
    | true => simp
    | false => simp

private theorem rewriteRest_eq : rewriteRest existing branch predecessor =
    (branch.indexed.filter fun entry => !branch.putAhead existing predecessor entry).map fun entry =>
      if predecessor.isSome then entry.1 else afterStopStep entry.1 := by
  unfold rewriteRest CandidateBranch.rest CandidateBranch.trailing CandidateBranch.putAhead CandidateBranch.steps
  cases predecessor with
  | some p => simp
  | none =>
    cases stopOpen existing with
    | true => simp
    | false => simp

private theorem length_appendOrder : (appendOrder existing branch predecessor).length = branch.steps.length := by
  have hsum : (rewriteAhead existing branch predecessor).length + (rewriteRest existing branch predecessor).length =
      branch.steps.length := length_ahead_add_rest
  rw [rewriteAhead_eq, rewriteRest_eq, List.length_map, List.length_map] at hsum
  rw [appendOrder, List.length_append, hsum]

/-- The step appended in the `m`th place does what its source does. -/
private theorem appended_same (hbranch : NoRestart branch.steps)
    (h : (appendOrder existing branch predecessor)[m]? = some entry) :
    ∃ step', (branchRewrite existing branch predecessor replaced).1[existing.officialSteps.length + m]? = some step' ∧
      SameAction entry.1 step' := by
  have hlen : (rewriteAhead existing branch predecessor).length =
      (branch.indexed.filter (branch.putAhead existing predecessor)).length := by
    rw [rewriteAhead_eq, List.length_map]
  unfold appendOrder at h
  by_cases hm : m < (rewriteAhead existing branch predecessor).length
  · rw [List.getElem?_append_left (by omega)] at h
    rw [getElem?_rewriteAhead hbranch hm, rewriteAhead_eq, List.getElem?_map, h]
    exact ⟨_, rfl, ⟨rfl, rfl, rfl, rfl⟩⟩
  · obtain ⟨m', rfl⟩ := Nat.exists_eq_add_of_le (not_lt.mp hm)
    rw [List.getElem?_append_right (by omega), hlen, Nat.add_sub_cancel_left] at h
    rw [← Nat.add_assoc, getElem?_rewriteRest hbranch, rewriteRest_eq, List.getElem?_map, h]
    refine ⟨_, rfl, ?_⟩
    dsimp only
    split
    · exact ⟨rfl, rfl, rfl, rfl⟩
    · exact (sameAction_afterStopStep entry.1).trans ⟨rfl, rfl, rfl, rfl⟩

variable (existing) in
/-- The steps of a candidate are appended one to one. -/
private theorem appendedAt_bijOn (h : candidateBranch held predecessor revision = .ok branch) :
    Set.BijOn (appendedAt existing branch predecessor) {i | Brought held i}
      {k | existing.officialSteps.length ≤ k ∧
        k < (branchRewrite existing branch predecessor replaced).1.length} := by
  have hlen : ((appendOrder existing branch predecessor).map Prod.snd).length = branch.steps.length := by
    rw [List.length_map, length_appendOrder]
  refine ⟨fun i hi => ?_, fun i hi j _ he => ?_, fun k hk => ?_⟩
  · have hlt := List.idxOf_lt_length_of_mem ((brought_iff existing h).mp hi)
    refine ⟨Nat.le_add_right _ _, ?_⟩
    rw [length_branchRewrite, appendedAt]
    omega
  · exact (List.idxOf_inj ((brought_iff existing h).mp hi)).mp (Nat.add_left_cancel he)
  · obtain ⟨hge, hlt⟩ := hk
    obtain ⟨m, rfl⟩ := Nat.exists_eq_add_of_le hge
    rw [length_branchRewrite] at hlt
    have hm : m < ((appendOrder existing branch predecessor).map Prod.snd).length := by omega
    have hnodup : ((appendOrder existing branch predecessor).map Prod.snd).Nodup := by
      have hperm : (appendOrder existing branch predecessor).Perm branch.indexed :=
        List.filter_append_perm _ _
      exact (hperm.map Prod.snd).nodup_iff.mpr ((indexed_increasing h).imp Nat.ne_of_lt)
    refine ⟨_, (brought_iff existing h).mpr (List.getElem_mem hm), ?_⟩
    rw [appendedAt, hnodup.idxOf_getElem]

end Appended

/-- An append that adds steps keeps the plan of its candidate exactly if the candidate's order agrees with the order
of appending. The correspondence of steps is the code's own: `appendedAt` is the place where the append puts a
step. -/
theorem append_conserves_iff {existing candidate held rewritten : WorkflowRequest} {branch : CandidateBranch}
    {predecessor : Option Nat} {replaced : List Nat} {now : Time} (hjob : FlatPlan existing ∨ JobDag existing)
    (hpred : ∀ p, predecessor = some p → Attachable (normalizedSteps existing) p)
    (hheld : inheritTerminalQuarantine existing candidate = .ok held)
    (hbranch : candidateBranch held predecessor existing.dagRevision = .ok branch)
    (hok : appendParallelJobBranch existing candidate predecessor replaced now = .ok rewritten)
    (happended : existing.officialSteps.length < rewritten.officialSteps.length) :
    Conserved existing held rewritten (appendedAt existing branch predecessor) ↔
      OrderAgrees existing held branch predecessor := by
  have hplan : JobPlan rewritten := by
    rcases hjob with hflat | hdag
    · exact (JobPlan.of_flatPlan hflat).append hpred hok
    · exact (JobPlan.of_jobDag hdag).append hpred hok
  rcases appendParallelJobBranch_ok hok with rfl | ⟨held', branch', action, hheld', hbranch', rfl⟩
  · omega
  rw [hheld] at hheld'
  cases hheld'
  rw [hbranch] at hbranch'
  cases hbranch'
  have hnorestart := noRestart_of_candidateBranch hbranch
  have hbij : Set.BijOn (appendedAt existing branch predecessor) {i | Brought held i}
      {k | existing.officialSteps.length ≤ k ∧ k < (branchRewrite existing branch predecessor replaced).1.length} :=
    appendedAt_bijOn existing hbranch
  -- the appended steps are a chain and the plan has no cycle, so an appended step waits for the earlier ones only
  have hwaits : ∀ i j, Brought held i → Brought held j →
      (DependsOn (stepDeps (branchRewrite existing branch predecessor replaced).1)
          (appendedAt existing branch predecessor j) (appendedAt existing branch predecessor i) ↔
        appendedAt existing branch predecessor i < appendedAt existing branch predecessor j) := by
    intro i j hi hj
    constructor
    · intro hpath
      by_contra hle
      obtain ⟨rank, hrank⟩ := hplan.planOk.ranked
      rw [stepDeps_normalizedSteps_of_dag rfl] at hrank
      rcases Nat.lt_or_eq_of_le (not_lt.mp hle) with hlt | he
      · exact hrank.acyclic _ (hpath.trans (dependsOn_new hnorestart (hbij.mapsTo hj).1 hlt (hbij.mapsTo hi).2))
      · rw [he] at hpath
        exact hrank.acyclic _ hpath
    · intro hlt
      exact dependsOn_new hnorestart (hbij.mapsTo hi).1 hlt (hbij.mapsTo hj).2
  constructor
  · intro hconserved i j hi hj hbefore
    exact (appendedAt_lt_iff hbranch hi hj).mp ((hwaits i j hi hj).mp (hconserved.order i j hi hj hbefore))
  · intro hagrees
    refine ⟨hbij, fun i step hlive hkind => ?_, fun i j hi hj hbefore => ?_⟩
    · have hmem : (step, i) ∈ appendOrder existing branch predecessor :=
        mem_appendOrder.mpr ((mem_indexed_iff hbranch).mpr ⟨hlive, hkind⟩)
      have hindex := List.getElem?_idxOf (List.mem_map_of_mem (f := Prod.snd) hmem)
      rw [List.getElem?_map] at hindex
      obtain ⟨⟨step', i'⟩, hentry, he⟩ := Option.map_eq_some_iff.mp hindex
      obtain rfl : i' = i := he
      have hlive' := ((mem_indexed_iff hbranch).mp (mem_appendOrder.mp (List.mem_of_getElem? hentry))).1
      obtain rfl : step' = step := Option.some.inj (hlive'.1.symm.trans hlive.1)
      exact appended_same hnorestart hentry
    · exact (hwaits i j hi hj).mpr ((appendedAt_lt_iff hbranch hi hj).mpr (hagrees i j hi hj hbefore))

section HandedOff

private def stoppedJob : WorkflowRequest :=
  { requestId := "w", status := .running
    officialSteps :=
      [{ operation := .stopWorkloads, nodeIds := ["n1", "n2"] }, { operation := .resetGpu, nodeIds := ["n2"] },
        { operation := .restartWorkload, nodeIds := ["n1", "n2"] }] }

private def resetCandidate : WorkflowRequest :=
  { requestId := "c", status := .pending
    officialSteps :=
      [{ operation := .freezeEvidence, nodeIds := ["n1"] }, { operation := .resetGpu, nodeIds := ["n1"] },
        { operation := .restoreScheduling, nodeIds := ["n1"] }] }

/-- A reboot that took over quiesced GPU services: their restore is the last step, and what followed the reboot waits
for it. -/
private def handedOffReboot : WorkflowRequest :=
  { requestId := "c", status := .pending, dagEnabled := true, dagRevision := 1
    officialSteps :=
      [{ operation := .restartNode, nodeIds := ["n1"] },
        { operation := .restoreScheduling, nodeIds := ["n1"], dependsOnStepIndexes := [2] },
        { operation := .restoreGpuServices, nodeIds := ["n1"], dependsOnStepIndexes := [0] }] }

private def withBranch (candidate : WorkflowRequest) : WorkflowRequest :=
  match appendParallelJobBranch stoppedJob candidate none [] 0 with
  | .ok rewritten => rewritten
  | .error _ => stoppedJob

private def broughtBranch (candidate : WorkflowRequest) : CandidateBranch :=
  match candidateBranch candidate none 0 with
  | .ok branch => branch
  | .error _ => { stopIndex := none, indexed := [], nodes := [], branchId := "", terminal := [] }

private theorem stoppedJob_flat : FlatPlan stoppedJob := by
  refine ⟨rfl, ?_, ?_⟩
  · decide
  · decide

/-- The freeze of a flat candidate is put before the stop and the rest keeps its order behind it. -/
theorem append_conserves_iff_reset :
    Conserved stoppedJob resetCandidate (withBranch resetCandidate)
      (appendedAt stoppedJob (broughtBranch resetCandidate) none) := by
  have hheld : inheritTerminalQuarantine stoppedJob resetCandidate = .ok resetCandidate := by rfl
  have hbranch :
      candidateBranch resetCandidate none stoppedJob.dagRevision = .ok (broughtBranch resetCandidate) := by rfl
  have hok : appendParallelJobBranch stoppedJob resetCandidate none [] 0 = .ok (withBranch resetCandidate) := by rfl
  refine (append_conserves_iff (.inl stoppedJob_flat) (by simp) hheld hbranch hok (by decide)).mpr ?_
  intro i j _ _ hbefore
  have hlt : i < j := hbefore
  refine ⟨fun hahead => ?_, fun _ => hlt⟩
  have hfirst : j ∈ [0] := aheadOfStop_iff.mp hahead
  simp at hfirst
  omega

/-- The scheduling of the node is restored before its GPU services: the edge to the later step is dropped and the
chain puts the two the other way round. -/
theorem append_reverses_handoff :
    FlatPlan stoppedJob ∧ handedOffReboot.completedStepIndexes = [] ∧ handedOffReboot.stepExecutions = [] ∧
      (∀ step ∈ handedOffReboot.officialSteps, isPreStopStep step = false) ∧
      inheritTerminalQuarantine stoppedJob handedOffReboot = .ok handedOffReboot ∧
      appendParallelJobBranch stoppedJob handedOffReboot none [] 0 = .ok (withBranch handedOffReboot) ∧
      stoppedJob.officialSteps.length < (withBranch handedOffReboot).officialSteps.length ∧
      ¬ ∃ place, Conserved stoppedJob handedOffReboot (withBranch handedOffReboot) place := by
  refine ⟨stoppedJob_flat, rfl, rfl, by decide, by rfl, by rfl, by decide, ?_⟩
  rintro ⟨place, hconserved⟩
  have hrestore : Brought handedOffReboot 1 := ⟨_, ⟨rfl, by decide⟩, rfl⟩
  have hservices : Brought handedOffReboot 2 := ⟨_, ⟨rfl, by decide⟩, rfl⟩
  have hplace : ∀ i, Brought handedOffReboot i → ∀ operation,
      stepOperation? handedOffReboot.officialSteps i = some operation →
      place i < 6 ∧ 3 ≤ place i ∧ stepOperation? (withBranch handedOffReboot).officialSteps (place i) =
        some operation := by
    rintro i ⟨step, hlive, hkind⟩ operation hop
    obtain ⟨step', hstep', hsame⟩ := hconserved.same i step hlive hkind
    obtain ⟨hge, hlt⟩ := hconserved.bijective.mapsTo (show Brought handedOffReboot i from ⟨step, hlive, hkind⟩)
    refine ⟨hlt, hge, ?_⟩
    rw [stepOperation?, hlive.1] at hop
    rw [stepOperation?, hstep', ← hop, Option.map_some, Option.map_some, hsame.operation]
  have hfind : ∀ k < 6, 3 ≤ k →
      (stepOperation? (withBranch handedOffReboot).officialSteps k = some .restoreScheduling → k = 4) ∧
      (stepOperation? (withBranch handedOffReboot).officialSteps k = some .restoreGpuServices → k = 5) := by decide
  obtain ⟨hlt, hge, hop⟩ := hplace 1 hrestore _ rfl
  have hfour := (hfind _ hlt hge).1 hop
  obtain ⟨hlt', hge', hop'⟩ := hplace 2 hservices _ rfl
  have hfive := (hfind _ hlt' hge').2 hop'
  have hpath := hconserved.order 2 1 hservices hrestore (.single (by decide))
  rw [hfour, hfive] at hpath
  have hmem : 5 ∈ [0, 3, 4] := hpath.mem_of_closed (by decide) (by simp)
  simp at hmem

end HandedOff

end GpuFaultRecovery
