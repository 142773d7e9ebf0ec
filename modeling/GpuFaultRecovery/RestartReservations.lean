import GpuFaultRecovery.RestartBudget
import GpuFaultRecovery.ExecutorPass

/-!
# Restarts and their reservations

Any number of rows are claimed, reserve, withhold, dispatch, end and are claimed again on one store; a pass whose
lease lapsed lives on beside the pass that claimed its row since. A dispatch reads its reservation back and fails
without it, so a restart that runs holds its reservation unless one of two things happened: the request brought an
authorization of its own for a restart this claim did not reserve, or somebody handed the reservation back between the
dispatch and the adapter.
-/

namespace GpuFaultRecovery

/-! ### The store and its passes -/

/-- A pass that holds a row: where its preflight is, and the restart whose authorization is signed and whose adapter
is called next. A pass that is `ending` only has its terminal write left. -/
structure RestartPass where
  id : Nat
  workflow : WorkflowRequest
  clusterId : String
  isSafety : Bool
  cursor : Option Nat := some 0
  cleared : Option Reservation := none
  ending : Bool := false
deriving Repr, DecidableEq

def RestartPass.phase (pass : RestartPass) : StepPhase := if pass.isSafety then .safety else .official

/-- The store with the passes over its rows; `granted` records what the claims of these passes reserved and nobody
handed back since. -/
structure RestartStore where
  budgets : RestartBudgetTable
  rows : WorkflowTable
  passes : Table RestartPass.id := Table.empty
  granted : List (Nat × Reservation) := []

namespace RestartStore

/-- The pass lets go of the row. -/
def drop (s : RestartStore) (id : Nat) : RestartStore :=
  { s with passes := s.passes.remove id, granted := s.granted.filter fun entry => entry.1 != id }

def leasedRow (s : RestartStore) (pass : RestartPass) : Option WorkflowRequest :=
  (s.rows.get? pass.workflow.requestId).filter fun stored =>
    stored.status.executable && stored.executionEpoch == pass.workflow.executionEpoch

/-- Whether a leased save of the pass goes through. -/
def saves (s : RestartStore) (pass : RestartPass) : Bool :=
  (s.leasedRow pass).any fun stored => stored.mergeRevision == pass.workflow.mergeRevision

def save (s : RestartStore) (pass : RestartPass) : RestartStore :=
  if s.saves pass then { s with rows := s.rows.put pass.workflow, passes := s.passes.put pass }
  else s.drop pass.id

/-- A new pass takes the row; one that held it under a lease that lapsed lives on. -/
def claim (s : RestartStore) (id : Nat) (requestId clusterId : String) (now : Time) : RestartStore :=
  match s.rows.get? requestId with
  | none => s
  | some row =>
    if (s.passes.get? id).isSome || !row.status.executable then s
    else
      let claimed := { row with status := .running, executionEpoch := row.executionEpoch + 1, updatedAt := now }
      { s.drop id with
        rows := s.rows.put claimed
        passes := s.passes.put { id, workflow := claimed, clusterId, isSafety := row.executesSafetySteps } }

section Texts

variable [UnicodeTables]

/-- One step of the preflight: skip the step at the cursor, reserve it, withhold it or end the row. -/
def reserve (s : RestartStore) (pass : RestartPass) (cursor : Nat) (now : Time) : RestartStore :=
  let requestId := pass.workflow.requestId
  match (phaseSteps pass.isSafety pass.workflow)[cursor]? with
  | none => { s with passes := s.passes.put { pass with cursor := none } }
  | some step =>
    let next := { pass with cursor := some (cursor + 1) }
    if !needsReservation pass.workflow pass.phase cursor step then { s with passes := s.passes.put next }
    else
      match reserveRestart s.budgets requestId pass.clusterId pass.phase cursor step with
      | (budgets, none) =>
        { s with
          budgets
          passes := s.passes.put next
          granted := (pass.id, stepReservation requestId pass.phase cursor step) :: s.granted }
      | (budgets, some failure) =>
        let s := { s with budgets }
        if failure.details.get? "reason" == some (.str budgetExhaustedReason) then
          -- the withheld step is resolved, so the next round skips it
          s.save { pass with
            workflow := withholdExhaustedRestart pass.workflow cursor step failure now
            cursor := some 0 }
        else
          { s with passes := s.passes.put { pass with
              workflow := recordAttempt pass.workflow step cursor failure now
              ending := true } }

/-- Dispatch a restart: sign its reservation, or take the authorization the request brought; the adapter goes on only
if that describes the step. -/
def dispatch (s : RestartStore) (pass : RestartPass) (index : Nat) (own : Option RestartAuthorization) :
    RestartStore :=
  match (phaseSteps pass.isSafety pass.workflow)[index]? with
  | none => s
  | some step =>
    let reservation := stepReservation pass.workflow.requestId pass.workflow.executionPhase index step
    if step.operation != .restartWorkload || pass.workflow.resolvedStepIndexes.contains index then s
    else
      match own.elim (issueRestartAuthorization s.budgets pass.clusterId step reservation) Except.ok with
      | .error _ => s
      | .ok authorization =>
        if authorizationMatches authorization step reservation.id then
          { s with passes := s.passes.put { pass with cleared := some reservation } }
        else s

/-- Read the row again and write what a step answered. -/
def record (s : RestartStore) (pass : RestartPass) (index : Nat) (outcome : StepOutcome) (now : Time) :
    RestartStore :=
  match s.leasedRow pass, (phaseSteps pass.isSafety pass.workflow)[index]? with
  | some stored, some step =>
    let attempted := recordAttempt stored step index outcome now
    let workflow := if outcome.status == .succeeded then recordCompletion attempted index step.operation now
      else attempted
    { s with rows := s.rows.put workflow, passes := s.passes.put { pass with workflow } }
  | _, _ => s.drop pass.id

def handBack (s : RestartStore) (released : List Reservation) : RestartStore :=
  { s with
    budgets := released.foldl releaseJobRestart s.budgets
    granted := s.granted.filter fun entry => !released.contains entry.2 }

/-- What a row that ended outside its pass hands back. -/
def swept (s : RestartStore) (requestId : String) (evidence : ReleaseEvidence) : List Reservation :=
  ((s.rows.get? requestId).filter fun row => !row.status.executable).elim [] fun row =>
    unattemptedReservations row evidence

end Texts

/-- The pass while it may still act. -/
def livePass (s : RestartStore) (id : Nat) : Option RestartPass :=
  (s.passes.get? id).filter fun pass => !pass.ending && pass.cleared.isNone

end RestartStore

/-- What can happen next. `rewrite` is any other writer of a row: a merge, an ending from outside, a row opened
again. -/
inductive RestartEvent where
  | claim (id : Nat) (requestId clusterId : String) (now : Time)
  | reserve (id : Nat) (now : Time)
  | dispatch (id : Nat) (index : Nat) (own : Option RestartAuthorization)
  | run (id : Nat)
  | record (id : Nat) (index : Nat) (outcome : StepOutcome) (now : Time)
  | release (id : Nat) (ended : WorkflowRequest) (evidence : ReleaseEvidence)
  | finish (id : Nat) (ended : WorkflowRequest)
  | abort (id : Nat)
  | rewrite (row : WorkflowRequest)
  | sweep (requestId : String) (evidence : ReleaseEvidence)

section Law

variable [UnicodeTables]

def restartStoreStep (s : RestartStore) : RestartEvent → RestartStore
  | .claim id requestId clusterId now => s.claim id requestId clusterId now
  | .reserve id now =>
    (s.livePass id).elim s fun pass => pass.cursor.elim s fun cursor => s.reserve pass cursor now
  | .dispatch id index own =>
    (s.livePass id).elim s fun pass => if pass.cursor.isSome then s else s.dispatch pass index own
  | .run id =>
    (s.passes.get? id).elim s fun pass => { s with passes := s.passes.put { pass with cleared := none } }
  | .record id index outcome now =>
    (s.livePass id).elim s fun pass => s.record pass index outcome now
  | .release id ended evidence =>
    (s.livePass id).elim s fun pass =>
      if ended.requestId != pass.workflow.requestId then s
      else
        { s.handBack (unattemptedReservations ended evidence) with
          passes := s.passes.put { pass with ending := true } }
  | .finish id ended =>
    ((s.passes.get? id).filter fun pass => pass.ending).elim s fun pass =>
      if ended.requestId == pass.workflow.requestId && !ended.status.executable && s.saves pass then
        { s.drop id with rows := s.rows.put ended }
      else s.drop id
  | .abort id => s.drop id
  | .rewrite row => { s with rows := s.rows.put row }
  | .sweep requestId evidence => s.handBack (s.swept requestId evidence)

/-! ### The law -/

/-- The count of every job is the number of its distinct reservations and within its budget. -/
def BudgetsExact (budgets : RestartBudgetTable) : Prop :=
  ∀ key state, budgets.get? key = some state →
    state.restartCount = state.reservationIds.dedup.length ∧ state.restartCount ≤ state.budget

def RunsReserved (s : RestartStore) : RestartEvent → Prop
  | .run id => ∀ pass reservation, s.passes.get? id = some pass → pass.cleared = some reservation →
      reservation.HeldIn s.budgets
  | _ => True

/-- No pass is between the dispatch and the adapter of one of the restarts. -/
def NoneCleared (s : RestartStore) (released : List Reservation) : Prop :=
  ∀ id pass reservation, s.passes.get? id = some pass → pass.cleared = some reservation → reservation ∉ released

/-- A request brings its own authorization only for a restart its claim reserved and nobody handed back since, and
nobody hands back the reservation of a restart that is between its dispatch and its adapter. -/
def Undisturbed (s : RestartStore) : RestartEvent → Prop
  | .dispatch id index (some _) => ∀ pass step, s.passes.get? id = some pass →
      (phaseSteps pass.isSafety pass.workflow)[index]? = some step →
      (id, stepReservation pass.workflow.requestId pass.workflow.executionPhase index step) ∈ s.granted
  | .release _ ended evidence => NoneCleared s (unattemptedReservations ended evidence)
  | .sweep requestId evidence => NoneCleared s (s.swept requestId evidence)
  | _ => True

end Law

/-! ### What every event keeps -/

/-- The budgets are valid, and what was granted or signed is held. -/
structure ReservationsKept (s : RestartStore) : Prop where
  valid : BudgetsValid s.budgets
  granted : ∀ entry ∈ s.granted, entry.2.HeldIn s.budgets
  cleared : ∀ id pass reservation, s.passes.get? id = some pass → pass.cleared = some reservation →
    reservation.HeldIn s.budgets

section Kept

variable {s : RestartStore} {pass : RestartPass} {id : Nat} {now : Time}

private theorem ReservationsKept.drop (h : ReservationsKept s) (id : Nat) : ReservationsKept (s.drop id) := by
  refine ⟨h.valid, fun entry hentry => h.granted entry (List.mem_filter.mp hentry).1, ?_⟩
  intro other pass reservation hpass hcleared
  have hpass' : (s.passes.remove id).get? other = some pass := hpass
  rw [Table.get?_remove] at hpass'
  split at hpass'
  · cases hpass'
  · exact h.cleared other pass reservation hpass' hcleared

private theorem ReservationsKept.put (h : ReservationsKept s) (pass : RestartPass) (hpass : pass.cleared = none)
    (rows : WorkflowTable) :
    ReservationsKept { s with rows, passes := s.passes.put pass } := by
  refine ⟨h.valid, h.granted, ?_⟩
  intro other found reservation hfound hcleared
  have hfound' : (s.passes.put pass).get? other = some found := hfound
  rw [Table.get?_put] at hfound'
  split at hfound'
  · rw [← Option.some.inj hfound', hpass] at hcleared
    cases hcleared
  · exact h.cleared other found reservation hfound' hcleared

private theorem ReservationsKept.save (h : ReservationsKept s) (hpass : pass.cleared = none) :
    ReservationsKept (s.save pass) := by
  unfold RestartStore.save
  split
  · exact h.put pass hpass _
  · exact h.drop _

private theorem ReservationsKept.claim (h : ReservationsKept s) (id : Nat) (requestId clusterId : String) :
    ReservationsKept (s.claim id requestId clusterId now) := by
  unfold RestartStore.claim
  split
  · exact h
  · split
    · exact h
    · refine ⟨h.valid, (h.drop id).granted, ?_⟩
      exact (h.put _ rfl s.rows).cleared

private theorem livePass_eq (h : s.livePass id = some pass) : s.passes.get? id = some pass ∧ pass.cleared = none := by
  obtain ⟨hget, hlive⟩ := Option.filter_eq_some_iff.mp h
  simp only [Bool.and_eq_true, Option.isNone_iff_eq_none] at hlive
  exact ⟨hget, hlive.2⟩

/-- A store with more reservations keeps what it held. -/
private theorem ReservationsKept.reserve [UnicodeTables] (h : ReservationsKept s) (hlive : s.livePass id = some pass)
    (cursor : Nat) : ReservationsKept (s.reserve pass cursor now) := by
  have hcleared := (livePass_eq hlive).2
  unfold RestartStore.reserve
  dsimp only
  split
  · refine h.put _ ?_ _
    exact hcleared
  · rename_i step hstep
    split
    · refine h.put _ ?_ _
      exact hcleared
    · cases hround : reserveRestart s.budgets pass.workflow.requestId pass.clusterId pass.phase cursor step with
      | mk budgets failure =>
        have hmore : ReservationsKept { s with budgets } := by
          rcases reserveRestart_cases hround with ⟨rfl, -⟩ | ⟨budget, state, granted, hreserve, -⟩
          · exact h
          · refine ⟨h.valid.reserve hreserve, fun entry hentry => (h.granted entry hentry).reserve hreserve, ?_⟩
            intro other found reservation hfound hsigned
            exact (h.cleared other found reservation hfound hsigned).reserve hreserve
        cases failure with
        | none =>
          have hnew : (stepReservation pass.workflow.requestId pass.phase cursor step).HeldIn budgets := by
            rcases reserveRestart_cases hround with ⟨-, hne⟩ | ⟨budget, state, granted, hreserve, hgranted⟩
            · exact absurd rfl hne
            · obtain rfl := hgranted.mp rfl
              exact heldIn_of_granted hreserve
          have hput := hmore.put { pass with cursor := some (cursor + 1) } hcleared s.rows
          refine ⟨hput.valid, ?_, hput.cleared⟩
          intro entry hentry
          rcases List.mem_cons.mp hentry with rfl | hold
          · exact hnew
          · exact hput.granted entry hold
        | some failure =>
          dsimp only
          split
          · refine hmore.save ?_
            exact hcleared
          · refine hmore.put _ ?_ _
            exact hcleared

/-- What is signed is held: it was read back, or the claim of the pass reserved it. -/
private theorem ReservationsKept.dispatch [UnicodeTables] (h : ReservationsKept s) (hlive : s.livePass id = some pass)
    {index : Nat} {own : Option RestartAuthorization} (hown : Undisturbed s (.dispatch id index own)) :
    ReservationsKept (s.dispatch pass index own) := by
  obtain ⟨hget, -⟩ := livePass_eq hlive
  unfold RestartStore.dispatch
  split
  · exact h
  rename_i step hstep
  dsimp only
  split
  · exact h
  split
  · exact h
  rename_i authorization hauthorization
  split
  · refine ⟨h.valid, h.granted, ?_⟩
    intro other found reservation hfound hsigned
    have hfound' : (s.passes.put _).get? other = some found := hfound
    rw [Table.get?_put] at hfound'
    split at hfound'
    · rw [← Option.some.inj hfound'] at hsigned
      obtain rfl := Option.some.inj hsigned
      cases own with
      | none => exact heldIn_of_issued hauthorization
      | some brought => exact h.granted _ (hown pass step hget hstep)
    · exact h.cleared other found reservation hfound' hsigned
  · exact h

private theorem ReservationsKept.record (h : ReservationsKept s) (hlive : s.livePass id = some pass) {index : Nat}
    {outcome : StepOutcome} : ReservationsKept (s.record pass index outcome now) := by
  unfold RestartStore.record
  split
  · refine h.put _ ?_ _
    exact (livePass_eq hlive).2
  · exact h.drop _

private theorem ReservationsKept.handBack (h : ReservationsKept s) {released : List Reservation}
    (hfree : NoneCleared s released) :
    ReservationsKept (s.handBack released) := by
  refine ⟨h.valid.releaseAll released, ?_, ?_⟩
  · intro entry hentry
    obtain ⟨hmem, hkept⟩ := List.mem_filter.mp hentry
    refine (h.granted entry hmem).releaseAll fun hreleased => ?_
    rw [List.contains_iff_mem.mpr hreleased] at hkept
    cases hkept
  · intro id pass reservation hpass hsigned
    exact (h.cleared id pass reservation hpass hsigned).releaseAll (hfree id pass reservation hpass hsigned)

end Kept

/-- Every undisturbed event keeps the reservations. -/
private theorem ReservationsKept.step [UnicodeTables] {s : RestartStore} (h : ReservationsKept s)
    (event : RestartEvent) (hfree : Undisturbed s event) : ReservationsKept (restartStoreStep s event) := by
  cases event with
  | claim id requestId clusterId now => exact h.claim id requestId clusterId
  | reserve id now =>
    dsimp only [restartStoreStep]
    cases hlive : s.livePass id with
    | none => exact h
    | some pass =>
      simp only [Option.elim_some]
      cases pass.cursor with
      | none => exact h
      | some cursor => exact h.reserve hlive cursor
  | dispatch id index own =>
    dsimp only [restartStoreStep]
    cases hlive : s.livePass id with
    | none => exact h
    | some pass =>
      simp only [Option.elim_some]
      split
      · exact h
      · exact h.dispatch hlive hfree
  | run id =>
    dsimp only [restartStoreStep]
    cases s.passes.get? id with
    | none => exact h
    | some pass => exact h.put _ rfl s.rows
  | record id index outcome now =>
    dsimp only [restartStoreStep]
    cases hlive : s.livePass id with
    | none => exact h
    | some pass => exact h.record hlive
  | release id ended evidence =>
    dsimp only [restartStoreStep]
    cases hlive : s.livePass id with
    | none => exact h
    | some pass =>
      simp only [Option.elim_some]
      split
      · exact h
      · refine (h.handBack hfree).put _ ?_ s.rows
        exact (livePass_eq hlive).2
  | finish id ended =>
    dsimp only [restartStoreStep]
    cases (s.passes.get? id).filter fun pass => pass.ending with
    | none => exact h
    | some pass =>
      simp only [Option.elim_some]
      split
      · exact ⟨h.valid, (h.drop id).granted, (h.drop id).cleared⟩
      · exact h.drop id
  | abort id => exact h.drop id
  | rewrite row => exact ⟨h.valid, h.granted, h.cleared⟩
  | sweep requestId evidence => exact h.handBack hfree

private theorem BudgetsValid.exact {budgets : RestartBudgetTable} (h : BudgetsValid budgets) :
    BudgetsExact budgets := by
  intro key state hstate
  have hvalid := h key state hstate
  rw [hvalid.unique.dedup]
  exact ⟨hvalid.count, hvalid.within⟩

/-- In every undisturbed run the count of every job stays the number of its distinct reservations and within its
budget, and every restart that runs holds its reservation at that moment. -/
theorem restarts_run_reserved [UnicodeTables] {s : RestartStore} {events : List RestartEvent}
    (hvalid : BudgetsValid s.budgets) (hpasses : s.passes = Table.empty) (hgranted : s.granted = [])
    (h : Run.Along restartStoreStep Undisturbed s events) :
    Run.Along restartStoreStep (fun s event => BudgetsExact s.budgets ∧ RunsReserved s event) s events ∧
      BudgetsExact (Run.exec restartStoreStep s events).budgets := by
  have hstart : ReservationsKept s := by
    refine ⟨hvalid, ?_, ?_⟩
    · intro entry hentry
      rw [hgranted] at hentry
      cases hentry
    · intro id pass reservation hpass
      rw [hpasses] at hpass
      cases hpass
  have hstep : ∀ s event, ReservationsKept s → Undisturbed s event → ReservationsKept (restartStoreStep s event) :=
    fun _ event hs hevent => hs.step event hevent
  constructor
  · refine Run.along_of_invariant hstep (fun s event hs _ => ⟨hs.valid.exact, ?_⟩) hstart h
    cases event with
    | run id => exact fun pass reservation => hs.cleared id pass reservation
    | _ => trivial
  · exact (Run.invariant_exec hstep hstart h).valid.exact

section Runs

private local instance restartTables : UnicodeTables := .asciiOnly

/-- A row that only restarts job `j`, which may be restarted once. -/
private def restartingRow (requestId : String) : WorkflowRequest :=
  { requestId
    incidentId := "i"
    status := .pending
    officialSteps :=
      [{ operation := .restartWorkload
         parameters := [("cluster_id", .str "c"), ("job_id", .str "j"), ("source_attempt_id", .str "a"),
           ("source_gpu_count", .int 8), ("restart_budget", .int 1)] }] }

private def restartingStore : RestartStore :=
  { budgets := Table.empty, rows := (Table.empty.put (restartingRow "w1")).put (restartingRow "w2") }

/-- Claim a row and take its preflight to the end. -/
private def claimed (id : Nat) (requestId : String) (now : Time) : List RestartEvent :=
  [.claim id requestId "c" now, .reserve id now, .reserve id now]

/-- An authorization for the restart of `w1`, as a request may bring it. -/
private def ownAuthorization : RestartAuthorization :=
  { clusterId := "c", jobId := "j", sourceAttemptId := "a", sourceGpuCount := 8, restartBudget := 1,
    restartCount := 1, reservationId := reservationId "w1" 0 .official }

/-- What the adapter answers while it holds the restart back. -/
private def heldBack : StepOutcome := { status := .waiting, details := [("restart_submitted", .bool false)] }

/-- The row of `w1` as the pass that ends it holds it. -/
private def waitedTooLong : WorkflowRequest :=
  { recordAttempt { restartingRow "w1" with status := .running } ((restartingRow "w1").officialSteps.getD 0 default) 0
      heldBack 1 with
    status := .failed }

/-- The wait of `w1` runs out and its reservation is handed back, but the row was merged and the write that ends it is
refused; `w2` takes the budget, and `w1`, claimed again, is not reserved because it already waited. -/
private def broughtAlong : List RestartEvent :=
  claimed 0 "w1" 0 ++ [.dispatch 0 0 none, .run 0, .record 0 0 heldBack 1,
    .rewrite { recordAttempt { restartingRow "w1" with status := .running }
      ((restartingRow "w1").officialSteps.getD 0 default) 0 heldBack 1 with mergeRevision := 1 },
    .release 0 waitedTooLong { now := 100, waitingTtl := some 50 }, .finish 0 waitedTooLong] ++
  claimed 1 "w2" 101 ++ claimed 2 "w1" 102 ++ [.dispatch 2 0 (some ownAuthorization)]

/-- The generation of `w1` is revoked between the dispatch of its restart and the adapter. -/
private def revokedMeanwhile : List RestartEvent :=
  claimed 0 "w1" 0 ++ [.dispatch 0 0 none, .rewrite { restartingRow "w1" with status := .superseded },
    .sweep "w1" { now := 1, waitingTtl := some 50 }]

private def restartOfW1 : Reservation := { clusterId := "c", jobId := "j", id := "w1/0/RESTART_WORKLOAD" }

private theorem unreserved_of_run {id : Nat} {events : List RestartEvent}
    (hsigned : ((Run.exec restartStoreStep restartingStore events).passes.get? id).bind RestartPass.cleared =
      some restartOfW1)
    (hgone : ¬ restartOfW1.HeldIn (Run.exec restartStoreStep restartingStore events).budgets) :
    ¬ Run.Along restartStoreStep (fun s event => BudgetsExact s.budgets ∧ RunsReserved s event) restartingStore
      (events ++ [.run id]) := by
  intro h
  obtain ⟨pass, hpass, hcleared⟩ := Option.bind_eq_some_iff.mp hsigned
  exact hgone (h.split.2.1.2 pass restartOfW1 hpass hcleared)

/-- A restart runs without its reservation: with an authorization the request brought along, and after the reservation
was handed back under the pass. -/
theorem restarts_run_unreserved :
    (¬ Run.Along restartStoreStep (fun s event => BudgetsExact s.budgets ∧ RunsReserved s event) restartingStore
      (broughtAlong ++ [.run 2])) ∧
    ¬ Run.Along restartStoreStep (fun s event => BudgetsExact s.budgets ∧ RunsReserved s event) restartingStore
      (revokedMeanwhile ++ [.run 0]) :=
  ⟨unreserved_of_run (by decide +kernel) (by decide +kernel),
    unreserved_of_run (by decide +kernel) (by decide +kernel)⟩

/-- The lease of the first pass lapses after it signed the restart of `w1`; a second pass claims the row, and the
first calls its adapter. -/
private def lapsedPass : List RestartEvent := claimed 0 "w1" 0 ++ [.dispatch 0 0 none] ++ claimed 1 "w1" 60

theorem restarts_run_reserved_lapsed :
    ((Run.exec restartStoreStep restartingStore lapsedPass).passes.get? 0).bind RestartPass.cleared =
      some restartOfW1 ∧
      Run.Along restartStoreStep (fun s event => BudgetsExact s.budgets ∧ RunsReserved s event) restartingStore
        (lapsedPass ++ [.run 0]) ∧
      BudgetsExact (Run.exec restartStoreStep restartingStore (lapsedPass ++ [.run 0])).budgets := by
  refine ⟨by decide +kernel, restarts_run_reserved ?_ rfl rfl
    ⟨trivial, trivial, trivial, trivial, trivial, trivial, trivial, trivial, trivial⟩⟩
  intro key state hstate
  cases hstate

end Runs

end GpuFaultRecovery
