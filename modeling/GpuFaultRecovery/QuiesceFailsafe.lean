import GpuFaultRecovery.Run
import GpuFaultRecovery.QuiesceManager

/-!
# The fail-safe behind every stopped service

A service that a quiesce stopped and no restore has started since is named by the incident's state file, and the
fail-safe timer is armed. This holds at every point of every call, so it holds wherever a process dies: the timer is
armed before the first stop, a restore starts every service of the file before it stops the timer, and the timer goes
before the file does.
-/

namespace GpuFaultRecovery

/-! ### The conditions -/

/-- Each service that is down is named by the file, under an armed timer. -/
def QuiesceNode.Covered (node : QuiesceNode) : Prop :=
  ∀ service ∈ node.stopped, node.timer = true ∧ ∃ state, node.file = some state ∧ service ∈ state.activeServices

/-- The file names `services`, and what is down is among them, under an armed timer. -/
structure QuiesceNode.Opened (services : List String) (node : QuiesceNode) : Prop where
  file : ∃ state, node.file = some state ∧ state.activeServices = services
  timer : node.stopped ≠ [] → node.timer = true
  among : ∀ service ∈ node.stopped, service ∈ services

/-- The same with the timer armed before anything is down. -/
structure QuiesceNode.Armed (services : List String) (node : QuiesceNode) : Prop where
  file : ∃ state, node.file = some state ∧ state.activeServices = services
  timer : node.timer = true
  among : ∀ service ∈ node.stopped, service ∈ services

private theorem QuiesceNode.covered_of_nil {node : QuiesceNode} (h : node.stopped = []) : node.Covered := by
  intro service hmem
  rw [h] at hmem
  cases hmem

private theorem QuiesceNode.Opened.covered {services : List String} {node : QuiesceNode} (h : node.Opened services) :
    node.Covered := by
  intro service hmem
  obtain ⟨state, hfile, hservices⟩ := h.file
  exact ⟨h.timer (List.ne_nil_of_mem hmem), state, hfile, hservices ▸ h.among service hmem⟩

private theorem QuiesceNode.Armed.opened {services : List String} {node : QuiesceNode} (h : node.Armed services) :
    node.Opened services :=
  ⟨h.file, fun _ => h.timer, h.among⟩

private theorem QuiesceNode.Covered.opened {node : QuiesceNode} {state : QuiesceState} (h : node.Covered)
    (hfile : node.file = some state) : node.Opened state.activeServices := by
  refine ⟨⟨state, hfile, rfl⟩, fun hne => ?_, fun service hmem => ?_⟩
  · obtain ⟨service, hmem⟩ := List.exists_mem_of_ne_nil _ hne
    exact (h service hmem).1
  · obtain ⟨-, other, hother, hin⟩ := h service hmem
    rw [hfile] at hother
    cases hother
    exact hin

private theorem QuiesceNode.Covered.stopped_of_no_file {node : QuiesceNode} (h : node.Covered)
    (hfile : node.file = none) :
    node.stopped = [] := by
  by_contra hne
  obtain ⟨service, hmem⟩ := List.exists_mem_of_ne_nil _ hne
  obtain ⟨-, state, hstate, -⟩ := h service hmem
  rw [hfile] at hstate
  cases hstate

/-! ### What single commands keep -/

variable {node : QuiesceNode} {services : List String} {state : QuiesceState}

private theorem writeState_opened {X : String → QuiesceNode → Prop} (h : node.Opened services)
    (hservices : state.activeServices = services) (hx : ∀ text after, after.Opened services → X text after) :
    Prog.Holds performQuiesce QuiesceNode.Covered (fun _ => QuiesceNode.Opened services) X
      (runCommand (.writeState state)) node := by
  have hstep : ∀ outcome, (performQuiesce node (.writeState state) outcome).1.Opened services := by
    intro outcome
    simp only [performQuiesce]
    split
    · exact ⟨⟨state, rfl, hservices⟩, h.timer, h.among⟩
    · exact ⟨h.file, h.timer, h.among⟩
  exact Prog.holds_call h.covered (fun outcome => (hstep outcome).covered) (fun outcome _ _ => hstep outcome)
    fun outcome _ _ => hx _ _ (hstep outcome)

private theorem mem_stopped_of_start {service other : String} {outcome : Outcome}
    (h : other ∈ (performQuiesce node (.start service) outcome).1.stopped) : other ∈ node.stopped := by
  simp only [performQuiesce] at h
  split at h
  · exact List.mem_of_mem_filter h
  · exact h

private theorem opened_start (h : node.Opened services) (service : String) (outcome : Outcome) :
    (performQuiesce node (.start service) outcome).1.Opened services := by
  refine ⟨?_, fun hne => ?_, fun other hmem => h.among other (mem_stopped_of_start hmem)⟩
  · simp only [performQuiesce]
    split <;> exact h.file
  · obtain ⟨other, hmem⟩ := List.exists_mem_of_ne_nil _ hne
    have htimer := h.timer (List.ne_nil_of_mem (mem_stopped_of_start hmem))
    simp only [performQuiesce]
    split <;> exact htimer

private theorem not_mem_stopped_of_start {service : String} {outcome : Outcome} {answer : Unit}
    (h : (performQuiesce node (.start service) outcome).2 = .ok answer) :
    service ∉ (performQuiesce node (.start service) outcome).1.stopped := by
  cases outcome with
  | answers yes lines => simp [performQuiesce, Outcome.took, QuiesceCommand.effect]
  | raises effect text => cases h

private theorem armed_of_stopsAmong {command : QuiesceCommand} (hc : command.StopsAmong services)
    (h : node.Armed services) (outcome : Outcome) : (performQuiesce node command outcome).1.Armed services := by
  obtain ⟨hfile, htimer, hstopped⟩ := performQuiesce_of_stopsAmong hc node outcome
  refine ⟨hfile ▸ h.file, htimer ▸ h.timer, ?_⟩
  rcases hstopped with hsame | ⟨service, hmem, hmore⟩
  · exact hsame ▸ h.among
  · rw [hmore]
    exact List.forall_mem_cons.mpr ⟨hmem, h.among⟩

private theorem opened_of_stopsAmong_nil {command : QuiesceCommand} (hc : command.StopsAmong [])
    (h : node.Opened services) (outcome : Outcome) : (performQuiesce node command outcome).1.Opened services := by
  obtain ⟨hfile, htimer, hsame | ⟨service, hmem, -⟩⟩ := performQuiesce_of_stopsAmong hc node outcome
  · exact ⟨hfile ▸ h.file, fun hne => htimer ▸ h.timer (hsame ▸ hne), hsame ▸ h.among⟩
  · cases hmem

private theorem stopped_nil_of_stopsAmong_nil {command : QuiesceCommand} (hc : command.StopsAmong [])
    (h : node.stopped = []) (outcome : Outcome) : (performQuiesce node command outcome).1.stopped = [] := by
  obtain ⟨-, -, hsame | ⟨service, hmem, -⟩⟩ := performQuiesce_of_stopsAmong hc node outcome
  · exact hsame.trans h
  · cases hmem

private theorem covered_of_only {α : Type} {prog : QuiesceProg α}
    (honly : Prog.Only (QuiesceCommand.StopsAmong []) prog) (h : node.Covered) :
    Prog.Holds performQuiesce QuiesceNode.Covered (fun _ => QuiesceNode.Covered) (fun _ _ => True) prog node := by
  refine (honly.holds (fun before command outcome hc hb => ?_) h).mono (fun _ hb => hb) (fun _ _ _ hb => hb)
    fun _ _ _ _ => trivial
  obtain ⟨hfile, htimer, hsame | ⟨service, hmem, -⟩⟩ := performQuiesce_of_stopsAmong hc before outcome
  · simpa only [QuiesceNode.Covered, hfile, htimer, hsame] using hb
  · cases hmem

private theorem stopped_nil_of_only {α : Type} {prog : QuiesceProg α}
    (honly : Prog.Only (QuiesceCommand.StopsAmong []) prog) (h : node.stopped = []) :
    Prog.Holds performQuiesce QuiesceNode.Covered (fun _ after => after.stopped = []) (fun _ _ => True)
      prog node := by
  have hkeeps : Prog.Holds performQuiesce (fun after => after.stopped = []) (fun _ after => after.stopped = [])
      (fun _ after => after.stopped = []) prog node :=
    honly.holds (fun _ _ outcome hc hnil => stopped_nil_of_stopsAmong_nil hc hnil outcome) h
  exact hkeeps.mono (fun _ => QuiesceNode.covered_of_nil) (fun _ _ _ hb => hb) fun _ _ _ _ => trivial

private theorem readState_answer {outcome : Outcome} {answer : Option QuiesceState}
    (h : (performQuiesce node .readState outcome).2 = .ok answer) :
    answer = (performQuiesce node .readState outcome).1.file := by
  cases outcome with
  | answers yes lines =>
    cases h
    rfl
  | raises effect text => cases h

/-! ### Restore -/

/-- When every start succeeded, nothing is down any more; until then the window stays open. -/
private theorem startServices_opened (h : node.Opened services) :
    Prog.Holds performQuiesce (QuiesceNode.Opened services) (fun _ after => after.stopped = [])
      (fun _ => QuiesceNode.Opened services) (startServices services) node := by
  have hstarts : Prog.Holds performQuiesce (QuiesceNode.Opened services)
      (fun _ after => ∀ service ∈ services, service ∉ after.stopped) (fun _ => QuiesceNode.Opened services)
      (Prog.forEach (fun service => runCommand (.start service)) services) node := by
    refine Prog.holds_forEach (M := fun done after => ∀ service ∈ done, service ∉ after.stopped)
      (fun done service rest current _ hopen hdone => ?_) h (by simp)
    refine Prog.holds_call hopen (opened_start hopen service) (fun outcome answer hok other hmem => ?_)
      fun outcome _ _ => opened_start hopen service outcome
    rcases List.mem_append.mp hmem with hold | hnew
    · exact fun hin => hdone other hold (mem_stopped_of_start hin)
    · rw [List.mem_singleton.mp hnew]
      exact not_mem_stopped_of_start hok
  refine Prog.holds_bind hstarts fun _ current hopen hstarted => ?_
  have hnone : current.stopped = [] :=
    List.eq_nil_iff_forall_not_mem.mpr fun service hmem => hstarted service (hopen.among service hmem) hmem
  have honly : Prog.Only (QuiesceCommand.StopsAmong [])
      (Prog.collect (fun service => runCommand (.isActive service)) services) :=
    Prog.only_collect fun service _ => Prog.only_call trivial
  have hfound : Prog.Holds performQuiesce (fun after => after.Opened services ∧ after.stopped = [])
      (fun _ after => after.Opened services ∧ after.stopped = [])
      (fun _ after => after.Opened services ∧ after.stopped = [])
      (Prog.collect (fun service => runCommand (.isActive service)) services) current :=
    honly.holds (fun before command outcome hc hbefore =>
      ⟨opened_of_stopsAmong_nil hc hbefore.1 outcome, stopped_nil_of_stopsAmong_nil hc hbefore.2 outcome⟩)
      ⟨hopen, hnone⟩
  refine Prog.holds_bind (hfound.mono (fun _ hb => hb.1) (fun _ _ _ hb => hb) fun _ _ _ hb => hb.1)
    fun active after _ hafter => ?_
  dsimp only
  split
  · exact Prog.holds_pure hafter.1 hafter.2
  · exact Prog.holds_raise hafter.1 hafter.1

private theorem holds_of_ne_stop (command : QuiesceCommand) (hne : ∀ service, command ≠ .stop service)
    (h : node.stopped = []) :
    Prog.Holds performQuiesce (fun after => after.stopped = []) (fun _ _ => True) (fun _ _ => True)
      (runCommand command) node := by
  have hstep : ∀ outcome, (performQuiesce node command outcome).1.stopped = [] := by
    intro outcome
    simp only [performQuiesce]
    split
    · cases command with
      | stop service => exact absurd rfl (hne service)
      | start service => simp [QuiesceCommand.effect, h]
      | _ => exact h
    · exact h
  exact Prog.holds_call h hstep (fun _ _ _ => trivial) fun _ _ _ => trivial

private theorem unlinkState_removes (h : node.stopped = []) :
    Prog.Holds performQuiesce (fun after => after.stopped = []) (fun _ after => after.file = none) (fun _ _ => True)
      (runCommand .unlinkState) node := by
  have hstep : ∀ outcome, (performQuiesce node .unlinkState outcome).1.stopped = [] := by
    intro outcome
    simp only [performQuiesce]
    split <;> exact h
  refine Prog.holds_call h hstep (fun outcome answer hok => ?_) fun _ _ _ => trivial
  cases outcome with
  | answers yes lines => rfl
  | raises effect text => cases hok

private theorem closeWindow_covered (waitForContainers : Bool) (h : node.stopped = []) :
    Prog.Holds performQuiesce QuiesceNode.Covered (fun _ after => after.file = none) (fun _ _ => True)
      (closeWindow state waitForContainers) node := by
  suffices hclose : Prog.Holds performQuiesce (fun after => after.stopped = []) (fun _ after => after.file = none)
      (fun _ _ => True) (closeWindow state waitForContainers) node from
    hclose.mono (fun _ => QuiesceNode.covered_of_nil) (fun _ _ _ hb => hb) fun _ _ _ hb => hb
  have hwait : Prog.Holds performQuiesce (fun after => after.stopped = []) (fun _ after => after.stopped = [])
      (fun _ after => after.stopped = []) (waitContainersRestored waitForContainers state.containerTargets) node :=
    (only_waitContainersRestored _ _).holds
      (fun _ _ outcome hc hnil => stopped_nil_of_stopsAmong_nil hc hnil outcome) h
  refine Prog.holds_bind (hwait.mono (fun _ hb => hb) (fun _ _ _ hb => hb) fun _ _ _ _ => trivial)
    fun _ before hnil _ => ?_
  refine Prog.holds_bind (holds_of_ne_stop (.stopTimer _) nofun hnil) fun _ before hnil _ => ?_
  refine Prog.holds_bind (holds_of_ne_stop (.resetFailed _) nofun hnil) fun _ before hnil _ => ?_
  exact Prog.holds_bind (unlinkState_removes hnil) fun _ before hnil hfile => Prog.holds_pure hnil hfile

private theorem readState_covered (h : node.Covered) :
    Prog.Holds performQuiesce QuiesceNode.Covered (fun answer after => answer = after.file) (fun _ _ => True)
      (runCommand .readState) node := by
  have hstep : ∀ outcome, (performQuiesce node .readState outcome).1.Covered := by
    intro outcome
    simp only [performQuiesce]
    split <;> exact h
  exact Prog.holds_call h hstep (fun _ _ => readState_answer) fun _ _ _ => trivial

/-- A restore that returns has removed the file, with everything up again. -/
private theorem restoreLocked_covered (waitForContainers : Bool) (h : node.Covered) :
    Prog.Holds performQuiesce QuiesceNode.Covered (fun _ after => after.file = none) (fun _ _ => True)
      (restoreLocked waitForContainers) node := by
  refine Prog.holds_bind (readState_covered h) fun found before hcov hfound => ?_
  cases found with
  | none => exact Prog.holds_pure hcov hfound.symm
  | some state =>
    have hopen : before.Opened state.activeServices := hcov.opened hfound.symm
    dsimp only
    split
    · refine Prog.holds_bind (writeState_opened hopen rfl fun _ _ _ => trivial) fun _ before _ hopen => ?_
      refine Prog.holds_bind (M := fun _ after => after.stopped = []) ?_ fun _ before _ hnil =>
        closeWindow_covered waitForContainers hnil
      refine Prog.holds_tryExcept ((startServices_opened hopen).mono (fun _ => QuiesceNode.Opened.covered)
        (fun _ _ _ hb => hb) fun _ _ _ hb => hb) fun failure before _ hopen => ?_
      refine Prog.holds_bind (writeState_opened hopen rfl fun _ _ _ => trivial) fun _ before hcov _ =>
        Prog.holds_raise hcov trivial
    · exact Prog.holds_raise hcov trivial

/-! ### Quiesce -/

private theorem writeState_armed (h : node.Armed services) (hservices : state.activeServices = services) :
    Prog.Holds performQuiesce QuiesceNode.Covered (fun _ => QuiesceNode.Armed services) (fun _ _ => True)
      (runCommand (.writeState state)) node := by
  have hstep : ∀ outcome, (performQuiesce node (.writeState state) outcome).1.Armed services := by
    intro outcome
    simp only [performQuiesce]
    split
    · exact ⟨⟨state, rfl, hservices⟩, h.timer, h.among⟩
    · exact ⟨h.file, h.timer, h.among⟩
  exact Prog.holds_call h.opened.covered (fun outcome => (hstep outcome).opened.covered)
    (fun outcome _ _ => hstep outcome) fun _ _ _ => trivial

private theorem armed_or_removed {timerUnit : String} (hfile : node.file = some state) (h : node.stopped = []) :
    Prog.Holds performQuiesce QuiesceNode.Covered (fun _ => QuiesceNode.Armed state.activeServices) (fun _ _ => True)
      ((armQuiesceFailsafe timerUnit).tryExcept fun failure => do
        runCommand .unlinkState
        .raise failure) node := by
  refine Prog.holds_tryExcept (Y := fun _ after => after.stopped = []) ?_ fun failure before _ hnil => ?_
  · have howns : ∀ outcome, (performQuiesce node .requirePhysicalOwnership outcome).1.file = some state ∧
        (performQuiesce node .requirePhysicalOwnership outcome).1.stopped = [] := by
      intro outcome
      simp only [performQuiesce]
      split <;> exact ⟨hfile, h⟩
    refine Prog.holds_bind (M := fun _ after => after.file = some state ∧ after.stopped = [])
      (Prog.holds_call (QuiesceNode.covered_of_nil h) (fun outcome => QuiesceNode.covered_of_nil (howns outcome).2)
        (fun outcome _ _ => howns outcome) fun outcome _ _ => (howns outcome).2) fun _ before _ hbefore => ?_
    have harms : ∀ outcome, (performQuiesce before (.systemdRun timerUnit) outcome).1.file = some state ∧
        (performQuiesce before (.systemdRun timerUnit) outcome).1.stopped = [] := by
      intro outcome
      simp only [performQuiesce]
      split <;> exact hbefore
    refine Prog.holds_call (QuiesceNode.covered_of_nil hbefore.2)
      (fun outcome => QuiesceNode.covered_of_nil (harms outcome).2) (fun outcome answer hok => ?_)
      fun outcome _ _ => (harms outcome).2
    refine ⟨⟨state, (harms outcome).1, rfl⟩, ?_, fun service hmem => ?_⟩
    · cases outcome with
      | answers yes lines => rfl
      | raises effect text => cases hok
    · rw [(harms outcome).2] at hmem
      cases hmem
  · refine Prog.holds_bind (M := fun _ _ => True) ((unlinkState_removes hnil).mono
      (fun _ => QuiesceNode.covered_of_nil) (fun _ _ _ _ => trivial) fun _ _ _ _ => trivial)
      fun _ before hcov _ => Prog.holds_raise hcov trivial

/-- Nothing is stopped before the timer is armed, and nothing but what the file names after it. -/
private theorem fillWindow_covered (manager : QuiesceManager) (request : QuiesceRequest) (h : node.stopped = []) :
    Prog.Holds performQuiesce QuiesceNode.Covered (fun _ _ => True) (fun _ _ => True)
      (fillWindow manager request state) node := by
  have hopen : Prog.Holds performQuiesce QuiesceNode.Covered
      (fun _ after => after.file = some state ∧ after.stopped = []) (fun _ _ => True)
      (runCommand (.writeState state)) node := by
    have hnil : ∀ outcome, (performQuiesce node (.writeState state) outcome).1.stopped = [] := by
      intro outcome
      simp only [performQuiesce]
      split <;> exact h
    refine Prog.holds_call (QuiesceNode.covered_of_nil h) (fun outcome => QuiesceNode.covered_of_nil (hnil outcome))
      (fun outcome answer hok => ⟨?_, hnil outcome⟩) fun _ _ _ => trivial
    cases outcome with
    | answers yes lines => rfl
    | raises effect text => cases hok
  refine Prog.holds_bind hopen fun _ before _ hopened => ?_
  refine Prog.holds_bind (armed_or_removed hopened.1 hopened.2) fun _ before hcov harmed => ?_
  refine Prog.holds_bind (writeState_armed harmed rfl) fun _ before hcov harmed => ?_
  refine Prog.holds_bind (M := fun _ after => after.Armed state.activeServices) ?_ fun kept before hcov harmed => ?_
  · have hstops : Prog.Holds performQuiesce (QuiesceNode.Armed state.activeServices)
        (fun _ => QuiesceNode.Armed state.activeServices) (fun _ => QuiesceNode.Armed state.activeServices)
        (stopGpuClients manager request { state with phase := .quiescing }) before :=
      (only_stopGpuClients manager request { state with phase := .quiescing }).holds
        (fun _ _ outcome hc hb => armed_of_stopsAmong hc hb outcome) harmed
    refine Prog.holds_tryExcept (hstops.mono (fun _ hb => hb.opened.covered) (fun _ _ _ hb => hb) fun _ _ _ hb => hb)
      fun failure before hcov harmed => ?_
    exact Prog.holds_bind (writeState_armed harmed rfl) fun _ before hcov _ => Prog.holds_raise hcov trivial
  · exact Prog.holds_bind (writeState_armed harmed rfl) fun _ before hcov _ => Prog.holds_pure hcov trivial

private theorem openWindow_covered (manager : QuiesceManager) (request : QuiesceRequest) (h : node.stopped = []) :
    Prog.Holds performQuiesce QuiesceNode.Covered (fun _ _ => True) (fun _ _ => True) (openWindow manager request)
      node := by
  refine Prog.holds_bind (stopped_nil_of_only (only_serviceInventory _ _) h) fun inventory before _ hnil => ?_
  refine Prog.holds_bind (stopped_nil_of_only (only_resolveContainerTargets _) hnil) fun targets before _ hnil => ?_
  refine Prog.holds_bind (stopped_nil_of_only only_readBootId hnil) fun bootId before _ hnil => ?_
  exact fillWindow_covered manager request hnil

/-- Where a quiesce finds no window, or has restored a failed one, there is no file. -/
private theorem existingWindow_covered (request : QuiesceRequest) (h : node.Covered) :
    Prog.Holds performQuiesce QuiesceNode.Covered (fun existing after => existing = none → after.file = none)
      (fun _ _ => True) (existingWindow request) node := by
  refine Prog.holds_bind (readState_covered h) fun found before hcov hfound => ?_
  cases found with
  | none => exact Prog.holds_pure hcov fun _ => hfound.symm
  | some state =>
    dsimp only
    split
    · exact Prog.holds_raise hcov trivial
    · have hinline : Prog.Holds performQuiesce QuiesceNode.Covered (fun _ after => after.file = none)
          (fun _ _ => True) (restoreInline state.phase) before :=
        Prog.holds_tryExcept (restoreLocked_covered true hcov) fun _ _ hafter _ => Prog.holds_raise hafter trivial
      have hrestored : Prog.Holds performQuiesce QuiesceNode.Covered
          (fun (existing : Option QuiesceState) after => existing = none → after.file = none) (fun _ _ => True)
          (restoreInline state.phase >>= fun _ => pure none) before :=
        Prog.holds_bind hinline fun _ after hafter hfile => Prog.holds_pure hafter fun _ => hfile
      unfold restoreFailedWindow
      split
      · exact Prog.holds_pure hcov nofun
      · exact hrestored
      · exact hrestored
      · exact Prog.holds_raise hcov trivial
      · exact Prog.holds_raise hcov trivial
      · exact Prog.holds_raise hcov trivial

private theorem quiesce_covered (manager : QuiesceManager) (request : QuiesceRequest) (h : node.Covered) :
    Prog.Holds performQuiesce QuiesceNode.Covered (fun _ _ => True) (fun _ _ => True) (quiesce manager request)
      node := by
  refine Prog.holds_bind (existingWindow_covered request h) fun existing before hcov hexisting => ?_
  cases existing with
  | none => exact openWindow_covered manager request (hcov.stopped_of_no_file (hexisting rfl))
  | some state =>
    dsimp only
    split
    · exact Prog.holds_raise hcov trivial
    · exact Prog.holds_pure hcov trivial

/-! ### The other calls -/

private theorem rewriteState_covered {next : QuiesceState} (h : node.Covered) (hfile : some state = node.file)
    (hservices : next.activeServices = state.activeServices) :
    Prog.Holds performQuiesce QuiesceNode.Covered (fun _ _ => True) (fun _ _ => True) (runCommand (.writeState next))
      node :=
  (writeState_opened (h.opened hfile.symm) hservices fun _ _ _ => trivial).mono (fun _ hb => hb)
    (fun _ _ _ _ => trivial) fun _ _ _ hb => hb

private theorem assertQuiesced_covered (commandId : Option String) (forReset : Bool) (attempt : Option Nat)
    (now : String) (h : node.Covered) :
    Prog.Holds performQuiesce QuiesceNode.Covered (fun _ _ => True) (fun _ _ => True)
      (assertQuiesced commandId forReset attempt now) node := by
  refine Prog.holds_bind (readState_covered h) fun found before hcov hfound => ?_
  cases found with
  | none => exact Prog.holds_raise hcov trivial
  | some state =>
    dsimp only
    split
    · exact Prog.holds_raise hcov trivial
    split
    · split
      · exact Prog.holds_raise hcov trivial
      · exact rewriteState_covered hcov hfound rfl
    · exact Prog.holds_pure hcov trivial

private theorem recordResetScope_covered (scope : String) (h : node.Covered) :
    Prog.Holds performQuiesce QuiesceNode.Covered (fun _ _ => True) (fun _ _ => True) (recordResetScope scope)
      node := by
  refine Prog.holds_tryExcept (Y := fun _ _ => True) ?_ fun _ after hafter _ => Prog.holds_pure hafter trivial
  refine Prog.holds_bind (readState_covered h) fun found before hcov hfound => ?_
  cases found with
  | none => exact Prog.holds_pure hcov trivial
  | some state =>
    dsimp only
    split
    · exact Prog.holds_pure hcov trivial
    · exact rewriteState_covered hcov hfound rfl

private theorem reconcileAfterBoot_covered (h : node.Covered) :
    Prog.Holds performQuiesce QuiesceNode.Covered (fun _ _ => True) (fun _ _ => True) reconcileAfterBoot node := by
  refine Prog.holds_bind (covered_of_only only_readBootId h) fun boot before hcov _ => ?_
  refine Prog.holds_bind (M := fun _ _ => True) (Prog.holds_tryExcept ((readState_covered hcov).mono
    (fun _ hb => hb) (fun _ _ _ _ => trivial) fun _ _ _ hb => hb) fun _ after hafter _ =>
      Prog.holds_pure hafter trivial) fun found before hcov _ => ?_
  cases found with
  | none => exact Prog.holds_pure hcov trivial
  | some state =>
    dsimp only
    split
    · exact Prog.holds_pure hcov trivial
    have honly : Prog.Only (QuiesceCommand.StopsAmong []) (timerStillArmed state) :=
      Prog.only_ite (Prog.only_call trivial) Prog.only_pure
    refine Prog.holds_bind (covered_of_only honly hcov) fun armed before hcov _ => ?_
    split
    · exact Prog.holds_pure hcov trivial
    · exact Prog.holds_tryExcept (Prog.holds_bind (restoreLocked_covered false hcov) fun _ after hafter _ =>
        Prog.holds_pure hafter trivial) fun _ after hafter _ => Prog.holds_pure hafter trivial

private theorem restore_covered (h : node.Covered) :
    Prog.Holds performQuiesce QuiesceNode.Covered (fun _ _ => True) (fun _ _ => True) restore node := by
  refine Prog.holds_bind (restoreLocked_covered true h) fun result before hcov _ => ?_
  split
  · exact Prog.holds_pure hcov trivial
  · exact Prog.holds_bind (covered_of_only only_snapshotPersistence hcov) fun _ after hafter _ =>
      Prog.holds_pure hafter trivial

private theorem QuiesceCall.prog_covered (c : QuiesceCall) (h : node.Covered) :
    Prog.Holds performQuiesce QuiesceNode.Covered (fun _ _ => True) (fun _ _ => True) c.prog node := by
  cases c with
  | quiesce manager request =>
    exact Prog.holds_bind (quiesce_covered manager request h) fun _ _ hcov _ => Prog.holds_pure hcov trivial
  | assertQuiesced commandId forReset attempt now => exact assertQuiesced_covered commandId forReset attempt now h
  | recordResetScope scope => exact recordResetScope_covered scope h
  | restore => exact Prog.holds_bind (restore_covered h) fun _ _ hcov _ => Prog.holds_pure hcov trivial
  | restoreStateFile waitForContainers =>
    exact Prog.holds_bind (restoreLocked_covered waitForContainers h) fun _ _ hcov _ => Prog.holds_pure hcov trivial
  | reconcileAfterBoot => exact reconcileAfterBoot_covered h

/-! ### Runs -/

/-- In every run of calls on one boot, a service that is down is named by the state file, and the fail-safe timer has
been armed and not stopped since. A call whose outcomes end early is one whose process died there. -/
theorem stopped_service_under_failsafe (file : Option QuiesceState) (timer : Bool) (bootId : String)
    (calls : List (QuiesceCall × List Outcome)) :
    ∀ service ∈ (Run.exec QuiesceNode.call (.booted file timer bootId) calls).stopped,
      (∃ state, (Run.exec QuiesceNode.call (.booted file timer bootId) calls).file = some state ∧
        service ∈ state.activeServices) ∧
      (Run.exec QuiesceNode.call (.booted file timer bootId) calls).timer = true := by
  have hcov : (Run.exec QuiesceNode.call (.booted file timer bootId) calls).Covered :=
    Run.invariant_exec (I := QuiesceNode.Covered) (P := fun _ _ => True)
      (fun before c hb _ => (c.1.prog_covered hb |>.run c.2).1) (QuiesceNode.covered_of_nil rfl)
      (Run.along_true _ _)
  intro service hmem
  exact ⟨(hcov service hmem).2, (hcov service hmem).1⟩

/-- A quiesce that dies right after its first stop leaves kubelet down, in the state file and under the timer. -/
theorem stopped_service_under_failsafe_kubelet :
    let run := Run.exec QuiesceNode.call (.booted none false "boot")
      [(.quiesce { services := ["kubelet"], key := fun _ => "k" } { incidentId := "i", workflowRequestId := "w" },
        List.replicate 10 (.answers true []))]
    "kubelet" ∈ run.stopped ∧ (∃ state, run.file = some state ∧ "kubelet" ∈ state.activeServices) ∧
      run.timer = true := by
  intro run
  have hstopped : "kubelet" ∈ run.stopped := by decide
  exact ⟨hstopped, stopped_service_under_failsafe none false "boot" _ "kubelet" hstopped⟩

end GpuFaultRecovery
