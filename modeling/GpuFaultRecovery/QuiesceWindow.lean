import Mathlib.Tactic.Set
import GpuFaultRecovery.Run
import GpuFaultRecovery.QuiesceManager

/-!
# One reset for each quiesce window

`assert_quiesced` claims the one reset of a window in the state file. A claim is cleared at the start of a restore,
and the restore may still fail and keep the file; but a file whose claim is gone is in a phase that no reset passes,
until a restore has started every service of the file, found each of them active and removed the file, and a new
quiesce has taken its own file to `QUIESCED`. Both can be read off the commands between two claims.
-/

namespace GpuFaultRecovery

/-! ### Restores and quiesces in a list of commands -/

/-- The file was written in `phase`, naming `services`. -/
def QuiesceEvent.Wrote (phase : QuiescePhase) (services : List String) (event : QuiesceEvent) : Prop :=
  ∃ state, event.command = .writeState state ∧ state.phase = phase ∧ state.activeServices = services ∧
    event.outcome.took = true

def QuiesceEvent.Started (service : String) (event : QuiesceEvent) : Prop :=
  event.command = .start service ∧ ∃ yes lines, event.outcome = .answers yes lines

def QuiesceEvent.FoundActive (service : String) (event : QuiesceEvent) : Prop :=
  event.command = .isActive service ∧ ∃ lines, event.outcome = .answers true lines

def QuiesceEvent.Armed (event : QuiesceEvent) : Prop :=
  (∃ timerUnit, event.command = .systemdRun timerUnit) ∧ ∃ yes lines, event.outcome = .answers yes lines

def QuiesceEvent.Removed (event : QuiesceEvent) : Prop :=
  event.command = .unlinkState ∧ event.outcome.took = true

def QuiesceCommand.KeepsFile : QuiesceCommand → Prop
  | .writeState _ | .unlinkState => False
  | _ => True

/-- The commands of a restore of `services` after which all of them run again, up to the removal of the file. -/
def RestoresUpTo (services : List String) (events : List QuiesceEvent) : Prop :=
  ∃ opening starts checks rest, events = opening :: (starts ++ checks ++ rest) ∧
    opening.Wrote .restoring services ∧ List.Forall₂ QuiesceEvent.Started services starts ∧
    List.Forall₂ QuiesceEvent.FoundActive services checks ∧ ∀ event ∈ rest, event.command.KeepsFile

/-- A restore that started every one of `services`, found each of them active and removed the file. -/
def RestoreOf (services : List String) (events : List QuiesceEvent) : Prop :=
  ∃ running removal, events = running ++ [removal] ∧ RestoresUpTo services running ∧ removal.Removed

/-- The commands of a quiesce that armed its timer and took its own file to `QUIESCING`. -/
def QuiescesUpTo (services : List String) (events : List QuiesceEvent) : Prop :=
  ∃ arming ownership timer quiescing rest, events = arming :: ownership :: timer :: quiescing :: rest ∧
    arming.Wrote .arming services ∧ timer.Armed ∧ quiescing.Wrote .quiescing services ∧
    ∀ event ∈ rest, event.command.KeepsFile

/-- A quiesce that opened a file of its own and took it to `QUIESCED`. -/
def FreshQuiesce (events : List QuiesceEvent) : Prop :=
  ∃ services filling last, events = filling ++ [last] ∧ QuiescesUpTo services filling ∧ last.Wrote .quiesced services

/-- A restore of `services` is among the commands. -/
def RestoredIn (services : List String) (events : List QuiesceEvent) : Prop :=
  ∃ before window after, events = before ++ window ++ after ∧ RestoreOf services window

/-- A restore of `services` is among the commands, and after it a quiesce that reached `QUIESCED`. -/
def ReopenedIn (services : List String) (events : List QuiesceEvent) : Prop :=
  ∃ before fresh after, events = before ++ fresh ++ after ∧ RestoredIn services before ∧ FreshQuiesce fresh

private theorem RestoredIn.append {services : List String} {events : List QuiesceEvent}
    (h : RestoredIn services events) (more : List QuiesceEvent) : RestoredIn services (events ++ more) := by
  obtain ⟨before, window, after, rfl, hwindow⟩ := h
  exact ⟨before, window, after ++ more, by simp, hwindow⟩

private theorem ReopenedIn.append {services : List String} {events : List QuiesceEvent}
    (h : ReopenedIn services events) (more : List QuiesceEvent) : ReopenedIn services (events ++ more) := by
  obtain ⟨before, fresh, after, rfl, hbefore, hfresh⟩ := h
  exact ⟨before, fresh, after ++ more, by simp, hbefore, hfresh⟩

/-! ### The state of the window since a claim -/

/-- The window that was claimed is still there: claimed, or in a phase that only a restore leaves. -/
def QuiesceNode.Held (services : List String) (node : QuiesceNode) : Prop :=
  ∃ state, node.file = some state ∧ state.activeServices = services ∧
    (state.phase = .quiesced ∧ state.resetIssued.isSome = true ∨ state.phase = .restoring ∨
      state.phase = .restoreFailed)

/-- The claimed window was restored, and a file in `QUIESCED` comes from a later quiesce. -/
def QuiesceNode.Restored (services : List String) (events : List QuiesceEvent) (node : QuiesceNode) : Prop :=
  RestoredIn services events ∧
    ∀ state, node.file = some state → state.phase = .quiesced → ReopenedIn services events

/-- The node since the log was `since`, when the reset of the window over `services` was claimed. -/
def QuiesceNode.Claimed (services : List String) (since : List QuiesceEvent) (node : QuiesceNode) : Prop :=
  ∃ events, node.log = since ++ events ∧ (node.Held services ∨ node.Restored services events)

/-- The node since then with the claimed window restored. -/
def QuiesceNode.Released (services : List String) (since : List QuiesceEvent) (node : QuiesceNode) : Prop :=
  ∃ events, node.log = since ++ events ∧ node.Restored services events

private theorem QuiesceNode.Released.claimed {services : List String} {since : List QuiesceEvent} {node : QuiesceNode}
    (h : node.Released services since) : node.Claimed services since := by
  obtain ⟨events, hlog, hrestored⟩ := h
  exact ⟨events, hlog, .inr hrestored⟩

variable {services : List String} {since : List QuiesceEvent} {node : QuiesceNode} {state : QuiesceState}

@[simp] theorem performQuiesce_log (node : QuiesceNode) (command : QuiesceCommand) (outcome : Outcome) :
    (performQuiesce node command outcome).1.log = node.log ++ [⟨command, outcome⟩] := rfl

private theorem performQuiesce_file_of_keepsFile (command : QuiesceCommand) (hc : command.KeepsFile)
    (node : QuiesceNode) (outcome : Outcome) : (performQuiesce node command outcome).1.file = node.file := by
  simp only [performQuiesce]
  split
  · cases command with
    | writeState state => cases hc
    | unlinkState => cases hc
    | _ => rfl
  · rfl

private theorem keepsFile_of_stopsAmong {services : List String} (command : QuiesceCommand)
    (h : command.StopsAmong services) : command.KeepsFile := by
  cases command with
  | writeState state => cases h
  | unlinkState => cases h
  | _ => trivial

/-- The commands that leave no file in `QUIESCED` that was not there before. -/
def QuiesceCommand.NotQuiesced (command : QuiesceCommand) : Prop :=
  ∀ state, command = .writeState state → state.phase ≠ .quiesced

private theorem notQuiesced_of_keepsFile (command : QuiesceCommand) (h : command.KeepsFile) :
    command.NotQuiesced := by
  rintro state rfl
  cases h

private theorem file_quiesced_before {command : QuiesceCommand} {outcome : Outcome} (hc : command.NotQuiesced)
    (hfile : (performQuiesce node command outcome).1.file = some state) (hphase : state.phase = .quiesced) :
    node.file = some state := by
  simp only [performQuiesce] at hfile
  split at hfile
  · cases command with
    | writeState written =>
      cases hfile
      exact absurd hphase (hc _ rfl)
    | unlinkState => cases hfile
    | _ => exact hfile
  · exact hfile

private theorem QuiesceNode.Released.perform {command : QuiesceCommand} (hc : command.NotQuiesced)
    (h : node.Released services since) (outcome : Outcome) :
    (performQuiesce node command outcome).1.Released services since := by
  obtain ⟨events, hlog, hrestored, hquiesced⟩ := h
  refine ⟨events ++ [⟨command, outcome⟩], by simp [hlog], hrestored.append _, fun state hfile hphase => ?_⟩
  exact (hquiesced state (file_quiesced_before hc hfile hphase) hphase).append _

private theorem QuiesceNode.Claimed.perform {command : QuiesceCommand} (hc : command.KeepsFile)
    (h : node.Claimed services since) (outcome : Outcome) :
    (performQuiesce node command outcome).1.Claimed services since := by
  obtain ⟨events, hlog, hheld | hrestored⟩ := h
  · refine ⟨events ++ [⟨command, outcome⟩], by simp [hlog], .inl ?_⟩
    rw [QuiesceNode.Held, performQuiesce_file_of_keepsFile command hc]
    exact hheld
  · exact (QuiesceNode.Released.perform (notQuiesced_of_keepsFile command hc)
      ⟨events, hlog, hrestored⟩ outcome).claimed

private theorem claimed_of_only {α : Type} {prog : QuiesceProg α}
    (honly : Prog.Only (QuiesceCommand.StopsAmong []) prog) (h : node.Claimed services since) :
    Prog.Holds performQuiesce (QuiesceNode.Claimed services since) (fun _ => QuiesceNode.Claimed services since)
      (fun _ _ => True) prog node :=
  (honly.holds (fun _ command outcome hc hb => hb.perform (keepsFile_of_stopsAmong command hc) outcome) h).mono
    (fun _ hb => hb) (fun _ _ _ hb => hb) fun _ _ _ _ => trivial

private theorem readState_claimed (h : node.Claimed services since) :
    Prog.Holds performQuiesce (QuiesceNode.Claimed services since) (fun answer after => answer = after.file)
      (fun _ _ => True) (runCommand .readState) node := by
  have hstep : ∀ outcome, (performQuiesce node .readState outcome).1.Claimed services since :=
    h.perform (show QuiesceCommand.KeepsFile .readState from trivial)
  refine Prog.holds_call h hstep (fun outcome answer hok => ?_) fun _ _ _ => trivial
  cases outcome with
  | answers yes lines =>
    cases hok
    rfl
  | raises effect text => cases hok

/-! ### A restore of the claimed window -/

/-- The claimed window is held, and the commands since some point on are `progress`. -/
def QuiesceNode.Restoring (services : List String) (since : List QuiesceEvent) (progress : List QuiesceEvent → Prop)
    (node : QuiesceNode) : Prop :=
  ∃ before events, node.log = since ++ before ++ events ∧ progress events ∧ node.Held services

private theorem QuiesceNode.Restoring.claimed {progress : List QuiesceEvent → Prop}
    (h : node.Restoring services since progress) : node.Claimed services since := by
  obtain ⟨before, events, hlog, -, hheld⟩ := h
  exact ⟨before ++ events, by simp [hlog], .inl hheld⟩

private theorem QuiesceNode.Restoring.mono {progress next : List QuiesceEvent → Prop}
    (h : node.Restoring services since progress) (hnext : ∀ events, progress events → next events) :
    node.Restoring services since next := by
  obtain ⟨before, events, hlog, hprogress, hheld⟩ := h
  exact ⟨before, events, hlog, hnext events hprogress, hheld⟩

private theorem QuiesceNode.Restoring.perform {progress next : List QuiesceEvent → Prop} {command : QuiesceCommand}
    {outcome : Outcome} (hc : command.KeepsFile) (h : node.Restoring services since progress)
    (hnext : ∀ events, progress events → next (events ++ [⟨command, outcome⟩])) :
    (performQuiesce node command outcome).1.Restoring services since next := by
  obtain ⟨before, events, hlog, hprogress, hheld⟩ := h
  refine ⟨before, events ++ [⟨command, outcome⟩], by simp [hlog], hnext events hprogress, ?_⟩
  rw [QuiesceNode.Held, performQuiesce_file_of_keepsFile command hc]
  exact hheld

/-- The file was written as `RESTORING` and `done` were started. -/
def StartsUpTo (services done : List String) (events : List QuiesceEvent) : Prop :=
  ∃ opening starts, events = opening :: starts ∧ opening.Wrote .restoring services ∧
    List.Forall₂ QuiesceEvent.Started done starts

/-- All services were started, and the checks of `done` answered `answers`. -/
def ChecksUpTo (services done : List String) (answers : List Bool) (events : List QuiesceEvent) : Prop :=
  ∃ started checks, events = started ++ checks ∧ StartsUpTo services services started ∧
    answers.length = done.length ∧
    List.Forall₂ (fun (pair : String × Bool) (event : QuiesceEvent) =>
      event.command = .isActive pair.1 ∧ ∃ lines, event.outcome = .answers pair.2 lines) (done.zip answers) checks

private theorem StartsUpTo.snoc {done : List String} {events : List QuiesceEvent} {event : QuiesceEvent}
    {service : String} (h : StartsUpTo services done events) (hevent : event.Started service) :
    StartsUpTo services (done ++ [service]) (events ++ [event]) := by
  obtain ⟨opening, starts, rfl, hopening, hstarts⟩ := h
  exact ⟨opening, starts ++ [event], rfl, hopening, List.rel_append hstarts (.cons hevent .nil)⟩

private theorem ChecksUpTo.snoc {done : List String} {answers : List Bool} {events : List QuiesceEvent}
    {service : String} {yes : Bool} {lines : List String} (h : ChecksUpTo services done answers events) :
    ChecksUpTo services (done ++ [service]) (answers ++ [yes])
      (events ++ [⟨.isActive service, .answers yes lines⟩]) := by
  obtain ⟨started, checks, rfl, hstarted, hlength, hchecks⟩ := h
  refine ⟨started, checks ++ [⟨.isActive service, .answers yes lines⟩], by simp, hstarted, by simp [hlength], ?_⟩
  rw [List.zip_append hlength.symm]
  exact List.rel_append hchecks (.cons ⟨rfl, lines, rfl⟩ .nil)

private theorem ChecksUpTo.restoresUpTo {answers : List Bool} {events : List QuiesceEvent}
    (h : ChecksUpTo services services answers events)
    (hactive : ∀ pair ∈ services.zip answers, pair.2 = true) : RestoresUpTo services events := by
  obtain ⟨started, checks, rfl, ⟨opening, starts, rfl, hopening, hstarts⟩, hlength, hchecks⟩ := h
  refine ⟨opening, starts, checks, [], by simp, hopening, hstarts, ?_, by simp⟩
  have hnames : (services.zip answers).map Prod.fst = services := by
    rw [List.map_fst_zip]
    omega
  rw [← hnames, List.forall₂_map_left_iff]
  refine (List.forall₂_and_left _ _).mpr ⟨hactive, hchecks⟩ |>.imp fun pair event hpair => ?_
  obtain ⟨hyes, hcommand, lines, houtcome⟩ := hpair
  exact ⟨hcommand, lines, hyes ▸ houtcome⟩

private theorem RestoresUpTo.snoc {events : List QuiesceEvent} {event : QuiesceEvent}
    (h : RestoresUpTo services events) (hevent : event.command.KeepsFile) :
    RestoresUpTo services (events ++ [event]) := by
  obtain ⟨opening, starts, checks, rest, rfl, hopening, hstarts, hchecks, hrest⟩ := h
  refine ⟨opening, starts, checks, rest ++ [event], by simp, hopening, hstarts, hchecks, ?_⟩
  simpa [or_imp, forall_and] using ⟨hrest, hevent⟩

/-- The starts and the checks of a restore; where they raise, the window is still held. -/
private theorem startServices_restoring (h : node.Restoring services since (StartsUpTo services [])) :
    Prog.Holds performQuiesce (QuiesceNode.Claimed services since)
      (fun _ => QuiesceNode.Restoring services since (RestoresUpTo services))
      (fun _ => QuiesceNode.Restoring services since fun _ => True) (startServices services) node := by
  have hstarts : Prog.Holds performQuiesce (QuiesceNode.Claimed services since)
      (fun _ => QuiesceNode.Restoring services since (StartsUpTo services services))
      (fun _ => QuiesceNode.Restoring services since fun _ => True)
      (Prog.forEach (fun service => runCommand (.start service)) services) node := by
    refine Prog.holds_forEach (M := fun done => QuiesceNode.Restoring services since (StartsUpTo services done))
      (fun done service rest current _ _ hdone => ?_) h.claimed h
    have hany : ∀ outcome, (performQuiesce current (.start service) outcome).1.Restoring services since
        fun _ => True := fun outcome => hdone.perform trivial fun _ _ => trivial
    refine Prog.holds_call hdone.claimed (fun outcome => (hany outcome).claimed) (fun outcome answer hok => ?_)
      fun outcome _ _ => hany outcome
    cases outcome with
    | answers yes lines => exact hdone.perform trivial fun events hb => hb.snoc ⟨rfl, yes, lines, rfl⟩
    | raises effect text => cases hok
  have hchecks : ∀ current : QuiesceNode, current.Restoring services since (StartsUpTo services services) →
      Prog.Holds performQuiesce (QuiesceNode.Claimed services since)
        (fun answers => QuiesceNode.Restoring services since (ChecksUpTo services services answers))
        (fun _ => QuiesceNode.Restoring services since fun _ => True)
        (Prog.collect (fun service => runCommand (.isActive service)) services) current := by
    intro current hcurrent
    refine Prog.holds_collect
      (M := fun done answers => QuiesceNode.Restoring services since (ChecksUpTo services done answers))
      (fun done answers service rest current _ _ hdone => ?_) hcurrent.claimed
      (hcurrent.mono fun events hb => ⟨events, [], by simp, hb, rfl, .nil⟩)
    have hany : ∀ outcome, (performQuiesce current (.isActive service) outcome).1.Restoring services since
        fun _ => True := fun outcome => hdone.perform trivial fun _ _ => trivial
    refine Prog.holds_call hdone.claimed (fun outcome => (hany outcome).claimed) (fun outcome answer hok => ?_)
      fun outcome _ _ => hany outcome
    cases outcome with
    | answers yes lines =>
      cases hok
      exact hdone.perform trivial fun events hb => hb.snoc
    | raises effect text => cases hok
  refine Prog.holds_bind hstarts fun _ current _ hcurrent => ?_
  refine Prog.holds_bind (hchecks current hcurrent) fun answers after _ hafter => ?_
  dsimp only
  split
  · rename_i hempty
    refine Prog.holds_pure hafter.claimed (hafter.mono fun events hb => hb.restoresUpTo fun pair hmem => ?_)
    have hnone := List.isEmpty_iff.mp hempty
    rw [List.map_eq_nil_iff, List.filter_eq_nil_iff] at hnone
    simpa using hnone pair hmem
  · exact Prog.holds_raise hafter.claimed (hafter.mono fun _ _ => trivial)

/-- The end of a restore: the window is held until its file is gone, and then it was restored. -/
private theorem closeWindow_restoring (waitForContainers : Bool)
    (h : node.Restoring services since (RestoresUpTo services)) :
    Prog.Holds performQuiesce (QuiesceNode.Claimed services since)
      (fun _ => QuiesceNode.Released services since) (fun _ _ => True)
        (closeWindow state waitForContainers) node := by
  have hkeeps : ∀ {before : QuiesceNode} (command : QuiesceCommand), command.KeepsFile →
      before.Restoring services since (RestoresUpTo services) → ∀ outcome,
        (performQuiesce before command outcome).1.Restoring services since (RestoresUpTo services) :=
    fun _ hc hb _ => hb.perform hc fun _ hevents => hevents.snoc hc
  have hcall : ∀ {before : QuiesceNode} (command : QuiesceCommand), command.KeepsFile →
      before.Restoring services since (RestoresUpTo services) →
        Prog.Holds performQuiesce (QuiesceNode.Claimed services since)
          (fun _ => QuiesceNode.Restoring services since (RestoresUpTo services)) (fun _ _ => True)
          (runCommand command) before :=
    fun command hc hb => Prog.holds_call hb.claimed (fun outcome => (hkeeps command hc hb outcome).claimed)
      (fun outcome _ _ => hkeeps command hc hb outcome) fun _ _ _ => trivial
  have honly : Prog.Only (QuiesceCommand.StopsAmong [])
      (waitContainersRestored waitForContainers state.containerTargets) := only_waitContainersRestored _ _
  have hwait : Prog.Holds performQuiesce (QuiesceNode.Restoring services since (RestoresUpTo services))
      (fun _ => QuiesceNode.Restoring services since (RestoresUpTo services))
      (fun _ => QuiesceNode.Restoring services since (RestoresUpTo services))
      (waitContainersRestored waitForContainers state.containerTargets) node :=
    honly.holds (fun _ command outcome hc hb => hkeeps command (keepsFile_of_stopsAmong command hc) hb outcome) h
  refine Prog.holds_bind (hwait.mono (fun _ => QuiesceNode.Restoring.claimed) (fun _ _ _ hb => hb)
    fun _ _ _ _ => trivial) fun _ before _ hb => ?_
  refine Prog.holds_bind (hcall (.stopTimer _) trivial hb) fun _ before _ hb => ?_
  refine Prog.holds_bind (hcall (.resetFailed _) trivial hb) fun _ before _ hb => ?_
  have hremoved : ∀ outcome, outcome.took = true →
      (performQuiesce before .unlinkState outcome).1.Released services since := by
    intro outcome htook
    obtain ⟨past, events, hlog, hevents, -⟩ := hb
    refine ⟨past ++ (events ++ [⟨.unlinkState, outcome⟩]), by simp [hlog], ?_, fun found hfile _ => ?_⟩
    · exact ⟨past, _, [], by simp, events, ⟨.unlinkState, outcome⟩, rfl, hevents, rfl, htook⟩
    · simp only [performQuiesce, htook, if_true] at hfile
      cases hfile
  have hunlink : ∀ outcome, (performQuiesce before .unlinkState outcome).1.Claimed services since := by
    intro outcome
    cases htook : outcome.took with
    | true => exact (hremoved outcome htook).claimed
    | false =>
      obtain ⟨past, events, hlog, -, hheld⟩ := hb
      refine ⟨past ++ events ++ [⟨.unlinkState, outcome⟩], by simp [hlog], .inl ?_⟩
      simpa only [QuiesceNode.Held, performQuiesce, htook, Bool.false_eq_true, if_false] using hheld
  refine Prog.holds_bind (M := fun _ => QuiesceNode.Released services since)
    (Prog.holds_call hb.claimed hunlink (fun outcome answer hok => ?_) fun _ _ _ => trivial)
    fun _ after _ hafter => Prog.holds_pure hafter.claimed hafter
  cases outcome with
  | answers yes lines => exact hremoved _ rfl
  | raises effect text => cases hok

private theorem claimed_of_held (hlog : ∃ events, node.log = since ++ events) (h : node.Held services) :
    node.Claimed services since := by
  obtain ⟨events, hevents⟩ := hlog
  exact ⟨events, hevents, .inl h⟩

private theorem log_perform {command : QuiesceCommand} (hlog : ∃ events, node.log = since ++ events)
    (outcome : Outcome) : ∃ events, (performQuiesce node command outcome).1.log = since ++ events := by
  obtain ⟨events, hevents⟩ := hlog
  exact ⟨events ++ [⟨command, outcome⟩], by simp [hevents]⟩

/-- The writes of a restore, as `RESTORING` and as `RESTORE_FAILED`, keep the window held. -/
private theorem writeState_held (hlog : ∃ events, node.log = since ++ events) (h : node.Held services)
    (hphase : state.phase = .restoring ∨ state.phase = .restoreFailed) (hservices : state.activeServices = services) :
    Prog.Holds performQuiesce (QuiesceNode.Claimed services since)
      (fun _ => QuiesceNode.Restoring services since fun events =>
        ∃ event, events = [event] ∧ event.Wrote state.phase services)
      (fun _ _ => True) (runCommand (.writeState state)) node := by
  have hheld : ∀ outcome, (performQuiesce node (.writeState state) outcome).1.Held services := by
    intro outcome
    simp only [performQuiesce]
    split
    · exact ⟨state, rfl, hservices, .inr hphase⟩
    · exact h
  refine Prog.holds_call (claimed_of_held hlog h) (fun outcome => claimed_of_held (log_perform hlog outcome)
    (hheld outcome)) (fun outcome answer hok => ?_) fun _ _ _ => trivial
  obtain ⟨events, hevents⟩ := hlog
  cases outcome with
  | answers yes lines =>
    refine ⟨events, [⟨.writeState state, .answers yes lines⟩], ?_, ⟨_, rfl, state, rfl, rfl, hservices, rfl⟩, hheld _⟩
    rw [performQuiesce_log, hevents]
  | raises effect text => cases hok

/-- A restore of a held window that returns has restored it. -/
private theorem restoreLocked_held (waitForContainers : Bool) (hlog : ∃ events, node.log = since ++ events)
    (h : node.Held services) :
    Prog.Holds performQuiesce (QuiesceNode.Claimed services since)
      (fun _ => QuiesceNode.Released services since) (fun _ _ => True) (restoreLocked waitForContainers) node := by
  have hread : ∀ outcome, (performQuiesce node .readState outcome).1.Held services := by
    intro outcome
    have hsame : (performQuiesce node .readState outcome).1.file = node.file :=
      performQuiesce_file_of_keepsFile .readState trivial node outcome
    rw [QuiesceNode.Held, hsame]
    exact h
  refine Prog.holds_bind (M := fun found after => found = after.file ∧ after.Held services ∧
      ∃ events, after.log = since ++ events) (Prog.holds_call (claimed_of_held hlog h)
      (fun outcome => claimed_of_held (log_perform hlog outcome) (hread outcome))
      (fun outcome answer hok => ⟨?_, hread outcome, log_perform hlog outcome⟩) fun _ _ _ => trivial)
    fun found before hclaimed hbefore => ?_
  · cases outcome with
    | answers yes lines =>
      cases hok
      rfl
    | raises effect text => cases hok
  obtain ⟨hfound, hheld, hlog⟩ := hbefore
  obtain ⟨state, hfile, rfl, -⟩ := id hheld
  rw [hfile] at hfound
  subst hfound
  dsimp only
  split
  · refine Prog.holds_bind (writeState_held hlog hheld (.inl rfl) rfl) fun _ before _ hopening => ?_
    have hrestoring : before.Restoring state.activeServices since (StartsUpTo state.activeServices []) := by
      refine hopening.mono fun events hevents => ?_
      obtain ⟨event, rfl, hwrote⟩ := hevents
      exact ⟨event, [], rfl, hwrote, .nil⟩
    refine Prog.holds_bind (M := fun _ => QuiesceNode.Restoring state.activeServices since
      (RestoresUpTo state.activeServices)) ?_ fun _ before _ hrestoring =>
        closeWindow_restoring waitForContainers hrestoring
    refine Prog.holds_tryExcept (startServices_restoring hrestoring) fun failure before hclaimed hfailed => ?_
    obtain ⟨past, events, hpast, -, hheld⟩ := hfailed
    have hlog : ∃ events, before.log = since ++ events := ⟨past ++ events, by simp [hpast]⟩
    exact Prog.holds_bind (writeState_held hlog hheld (.inr rfl) rfl) fun _ after hafter _ =>
      Prog.holds_raise hafter trivial
  · exact Prog.holds_raise hclaimed trivial

private theorem only_keepsFile {α : Type} {prog : QuiesceProg α} (opened : List String)
    (honly : Prog.Only (QuiesceCommand.StopsAmong opened) prog) : Prog.Only QuiesceCommand.NotQuiesced prog :=
  honly.mono fun command hc => notQuiesced_of_keepsFile command (keepsFile_of_stopsAmong command hc)

private theorem only_call_keepsFile (command : QuiesceCommand) (hc : command.KeepsFile) :
    Prog.Only QuiesceCommand.NotQuiesced (runCommand command) :=
  Prog.only_call (notQuiesced_of_keepsFile command hc)

private theorem only_call_writeState (hphase : state.phase ≠ .quiesced) :
    Prog.Only QuiesceCommand.NotQuiesced (runCommand (.writeState state)) := by
  refine Prog.only_call fun written hwritten => ?_
  cases hwritten
  exact hphase

private theorem only_call_unlinkState : Prog.Only QuiesceCommand.NotQuiesced (runCommand .unlinkState) :=
  Prog.only_call fun _ hwritten => nomatch hwritten

private theorem only_restoreLocked (waitForContainers : Bool) :
    Prog.Only QuiesceCommand.NotQuiesced (restoreLocked waitForContainers) := by
  refine (only_call_keepsFile .readState trivial).bind fun found => ?_
  cases found with
  | none => trivial
  | some state =>
    refine Prog.only_ite ?_ trivial
    refine (only_call_writeState (by simp)).bind fun _ =>
      Prog.Only.bind (Prog.Only.tryExcept ?_ fun _ => ?_) fun _ => ?_
    · refine (Prog.only_forEach fun service _ => only_call_keepsFile (.start service) trivial).bind fun _ => ?_
      refine (Prog.only_collect fun service _ => only_call_keepsFile (.isActive service) trivial).bind fun _ => ?_
      exact Prog.only_ite trivial trivial
    · exact (only_call_writeState (by simp)).bind fun _ => trivial
    · refine (only_keepsFile [] (only_waitContainersRestored _ _)).bind fun _ => ?_
      refine (only_call_keepsFile (.stopTimer _) trivial).bind fun _ => ?_
      refine (only_call_keepsFile (.resetFailed _) trivial).bind fun _ => ?_
      exact only_call_unlinkState.bind fun _ => trivial

private theorem released_of_only {α : Type} {prog : QuiesceProg α} (honly : Prog.Only QuiesceCommand.NotQuiesced prog)
    (h : node.Released services since) :
    Prog.Holds performQuiesce (QuiesceNode.Claimed services since) (fun _ => QuiesceNode.Released services since)
      (fun _ => QuiesceNode.Released services since) prog node :=
  (honly.holds (fun _ _ outcome hc hb => hb.perform hc outcome) h).mono (fun _ => QuiesceNode.Released.claimed)
    (fun _ _ _ hb => hb) fun _ _ _ hb => hb

private theorem restoreLocked_claimed (waitForContainers : Bool) (h : node.Claimed services since) :
    Prog.Holds performQuiesce (QuiesceNode.Claimed services since) (fun _ => QuiesceNode.Released services since)
      (fun _ _ => True) (restoreLocked waitForContainers) node := by
  obtain ⟨events, hlog, hheld | hrestored⟩ := h
  · exact restoreLocked_held waitForContainers ⟨events, hlog⟩ hheld
  · exact (released_of_only (only_restoreLocked waitForContainers) ⟨events, hlog, hrestored⟩).mono (fun _ hb => hb)
      (fun _ _ _ hb => hb) fun _ _ _ _ => trivial

/-! ### Quiesce -/

/-- A new window opens only where the claimed one was restored. -/
private theorem existingWindow_claimed (request : QuiesceRequest) (h : node.Claimed services since) :
    Prog.Holds performQuiesce (QuiesceNode.Claimed services since)
      (fun existing after => existing = none → after.Released services since) (fun _ _ => True)
      (existingWindow request) node := by
  refine Prog.holds_bind (readState_claimed h) fun found before hclaimed hfound => ?_
  cases found with
  | none =>
    refine Prog.holds_pure hclaimed fun _ => ?_
    obtain ⟨events, hlog, ⟨state, hfile, -⟩ | hrestored⟩ := hclaimed
    · rw [hfile] at hfound
      cases hfound
    · exact ⟨events, hlog, hrestored⟩
  | some state =>
    dsimp only
    split
    · exact Prog.holds_raise hclaimed trivial
    · have hinline : Prog.Holds performQuiesce (QuiesceNode.Claimed services since)
          (fun _ => QuiesceNode.Released services since) (fun _ _ => True) (restoreInline state.phase) before :=
        Prog.holds_tryExcept (restoreLocked_claimed true hclaimed) fun _ _ hafter _ => Prog.holds_raise hafter trivial
      have hrestored : Prog.Holds performQuiesce (QuiesceNode.Claimed services since)
          (fun (existing : Option QuiesceState) after => existing = none → after.Released services since)
          (fun _ _ => True) (restoreInline state.phase >>= fun _ => pure none) before :=
        Prog.holds_bind hinline fun _ after hafter hreleased => Prog.holds_pure hafter fun _ => hreleased
      unfold restoreFailedWindow
      split
      · exact Prog.holds_pure hclaimed nofun
      · exact hrestored
      · exact hrestored
      · exact Prog.holds_raise hclaimed trivial
      · exact Prog.holds_raise hclaimed trivial
      · exact Prog.holds_raise hclaimed trivial

/-- The claimed window is restored, and the commands since some point after that are `progress`. -/
def QuiesceNode.Filling (services : List String) (since : List QuiesceEvent) (progress : List QuiesceEvent → Prop)
    (node : QuiesceNode) : Prop :=
  node.Released services since ∧
    ∃ before events, node.log = since ++ before ++ events ∧ RestoredIn services before ∧ progress events

private theorem QuiesceNode.Filling.perform {progress next : List QuiesceEvent → Prop} {command : QuiesceCommand}
    {outcome : Outcome} (hc : command.NotQuiesced) (h : node.Filling services since progress)
    (hnext : ∀ events, progress events → next (events ++ [⟨command, outcome⟩])) :
    (performQuiesce node command outcome).1.Filling services since next := by
  obtain ⟨hreleased, before, events, hlog, hbefore, hprogress⟩ := h
  refine ⟨hreleased.perform hc outcome, before, events ++ [⟨command, outcome⟩], ?_, hbefore, hnext events hprogress⟩
  rw [performQuiesce_log, hlog, List.append_assoc]

private theorem QuiesceNode.Released.filling (h : node.Released services since) :
    node.Filling services since fun events => events = [] := by
  obtain ⟨events, hlog, hrestored⟩ := h
  exact ⟨⟨events, hlog, hrestored⟩, events, [], by simp [hlog], hrestored.1, rfl⟩

private theorem QuiescesUpTo.snoc {opened : List String} {events : List QuiesceEvent} {event : QuiesceEvent}
    (h : QuiescesUpTo opened events) (hevent : event.command.KeepsFile) :
    QuiescesUpTo opened (events ++ [event]) := by
  obtain ⟨arming, ownership, timer, quiescing, rest, rfl, harming, htimer, hquiescing, hrest⟩ := h
  refine ⟨arming, ownership, timer, quiescing, rest ++ [event], by simp, harming, htimer, hquiescing, ?_⟩
  simpa [or_imp, forall_and] using ⟨hrest, hevent⟩

private theorem writeState_filling {progress : List QuiesceEvent → Prop} (hphase : state.phase ≠ .quiesced)
    (h : node.Filling services since progress) :
    Prog.Holds performQuiesce (QuiesceNode.Claimed services since)
      (fun _ => QuiesceNode.Filling services since fun events => ∃ past event, events = past ++ [event] ∧
        progress past ∧ event.Wrote state.phase state.activeServices)
      (fun _ _ => True) (runCommand (.writeState state)) node := by
  have hc : (QuiesceCommand.writeState state).NotQuiesced := by
    intro written hwritten
    cases hwritten
    exact hphase
  refine Prog.holds_call h.1.claimed (fun outcome => (h.1.perform hc outcome).claimed)
    (fun outcome answer hok => ?_) fun _ _ _ => trivial
  cases outcome with
  | answers yes lines =>
    exact h.perform hc fun events hevents => ⟨events, _, rfl, hevents, state, rfl, rfl, rfl, rfl⟩
  | raises effect text => cases hok

/-- The timer of a quiesce after its `ARMING` write; where it cannot be armed the file goes again. -/
private theorem armed_filling {opened : List String} {timerUnit : String}
    (h : node.Filling services since fun events => ∃ arming, events = [arming] ∧ arming.Wrote .arming opened) :
    Prog.Holds performQuiesce (QuiesceNode.Claimed services since)
      (fun _ => QuiesceNode.Filling services since fun events => ∃ arming ownership timer,
        events = [arming, ownership, timer] ∧ arming.Wrote .arming opened ∧ timer.Armed)
      (fun _ _ => True)
      ((armQuiesceFailsafe timerUnit).tryExcept fun failure => do
        runCommand .unlinkState
        .raise failure) node := by
  refine Prog.holds_tryExcept (Y := fun _ => QuiesceNode.Released services since) ?_ fun failure before _ hb => ?_
  · have howns : QuiesceCommand.NotQuiesced .requirePhysicalOwnership := notQuiesced_of_keepsFile _ trivial
    refine Prog.holds_bind (M := fun _ => QuiesceNode.Filling services since fun events => ∃ arming ownership,
        events = [arming, ownership] ∧ arming.Wrote .arming opened) ?_ fun _ before _ hb => ?_
    · refine Prog.holds_call h.1.claimed (fun outcome => (h.1.perform howns outcome).claimed)
        (fun outcome _ _ => h.perform howns ?_) fun outcome _ _ => h.1.perform howns outcome
      rintro events ⟨arming, rfl, harming⟩
      exact ⟨arming, _, rfl, harming⟩
    · have harms : QuiesceCommand.NotQuiesced (.systemdRun timerUnit) := notQuiesced_of_keepsFile _ trivial
      refine Prog.holds_call hb.1.claimed (fun outcome => (hb.1.perform harms outcome).claimed)
        (fun outcome answer hok => hb.perform harms ?_) fun outcome _ _ => hb.1.perform harms outcome
      rintro events ⟨arming, ownership, rfl, harming⟩
      cases outcome with
      | answers yes lines => exact ⟨arming, ownership, _, rfl, harming, ⟨timerUnit, rfl⟩, yes, lines, rfl⟩
      | raises effect text => cases hok
  · exact Prog.holds_bind ((released_of_only only_call_unlinkState hb).mono (fun _ hb => hb) (fun _ _ _ hb => hb)
      fun _ _ _ _ => trivial) fun _ after hafter _ => Prog.holds_raise hafter trivial

/-- The last write of a quiesce: the file in `QUIESCED` comes after the restore. -/
private theorem writeState_quiesced (hphase : state.phase = .quiesced)
    (h : node.Filling services since (QuiescesUpTo state.activeServices)) :
    Prog.Holds performQuiesce (QuiesceNode.Claimed services since) (fun _ _ => True) (fun _ _ => True)
      (runCommand (.writeState state)) node := by
  have hstep : ∀ outcome, (performQuiesce node (.writeState state) outcome).1.Released services since := by
    intro outcome
    obtain ⟨hreleased, before, events, hlog, hbefore, hevents⟩ := h
    cases htook : outcome.took with
    | true =>
      refine ⟨before ++ (events ++ [⟨.writeState state, outcome⟩]), ?_, hbefore.append _, fun _ _ _ => ?_⟩
      · rw [performQuiesce_log, hlog, List.append_assoc, List.append_assoc]
      · exact ⟨before, _, [], by simp, hbefore, _, events, ⟨.writeState state, outcome⟩, rfl, hevents, state, rfl,
          hphase, rfl, htook⟩
    | false =>
      obtain ⟨whole, hwhole, hrestored, hquiesced⟩ := hreleased
      refine ⟨whole ++ [⟨.writeState state, outcome⟩], ?_, hrestored.append _, fun found hfile hfound => ?_⟩
      · rw [performQuiesce_log, hwhole, List.append_assoc]
      · simp only [performQuiesce, htook, Bool.false_eq_true, if_false] at hfile
        exact (hquiesced found hfile hfound).append _
  exact Prog.holds_call h.1.claimed (fun outcome => (hstep outcome).claimed) (fun _ _ _ => trivial) fun _ _ _ =>
    trivial

private theorem fillWindow_claimed (manager : QuiesceManager) (request : QuiesceRequest)
    (hphase : state.phase = .arming) (h : node.Released services since) :
    Prog.Holds performQuiesce (QuiesceNode.Claimed services since) (fun _ _ => True) (fun _ _ => True)
      (fillWindow manager request state) node := by
  refine Prog.holds_bind (writeState_filling (by simp [hphase]) h.filling) fun _ before _ hb => ?_
  have harming : before.Filling services since fun events =>
      ∃ arming, events = [arming] ∧ arming.Wrote .arming state.activeServices := by
    obtain ⟨hreleased, past, events, hlog, hpast, _, event, rfl, rfl, hwrote⟩ := hb
    exact ⟨hreleased, past, _, hlog, hpast, event, rfl, hphase ▸ hwrote⟩
  refine Prog.holds_bind (armed_filling harming) fun _ before _ harmed => ?_
  refine Prog.holds_bind (writeState_filling (by simp) harmed) fun _ before _ hb => ?_
  have hquiescing : before.Filling services since (QuiescesUpTo state.activeServices) := by
    obtain ⟨hreleased, past, events, hlog, hpast, _, event, rfl, ⟨arming, ownership, timer, rfl, hrest⟩, hwrote⟩ := hb
    exact ⟨hreleased, past, _, hlog, hpast, arming, ownership, timer, event, [], rfl, hrest.1, hrest.2,
      hwrote, by simp⟩
  refine Prog.holds_bind (M := fun _ => QuiesceNode.Filling services since (QuiescesUpTo state.activeServices)) ?_
    fun kept before _ hfilled => ?_
  · have hstops : Prog.Holds performQuiesce (QuiesceNode.Filling services since (QuiescesUpTo state.activeServices))
        (fun _ => QuiesceNode.Filling services since (QuiescesUpTo state.activeServices))
        (fun _ => QuiesceNode.Filling services since (QuiescesUpTo state.activeServices))
        (stopGpuClients manager request { state with phase := .quiescing }) before :=
      (only_stopGpuClients manager request { state with phase := .quiescing }).holds
        (fun _ command _ hc hb => hb.perform (notQuiesced_of_keepsFile command (keepsFile_of_stopsAmong command hc))
          fun _ hevents => hevents.snoc (keepsFile_of_stopsAmong command hc)) hquiescing
    refine Prog.holds_tryExcept (hstops.mono (fun _ hb => hb.1.claimed) (fun _ _ _ hb => hb) fun _ _ _ hb => hb)
      fun failure before _ hb => ?_
    exact Prog.holds_bind (writeState_filling (by simp) hb) fun _ after hafter _ => Prog.holds_raise hafter trivial
  · exact Prog.holds_bind (writeState_quiesced rfl hfilled) fun _ after hafter _ => Prog.holds_pure hafter trivial

private theorem quiesce_claimed (manager : QuiesceManager) (request : QuiesceRequest)
    (h : node.Claimed services since) :
    Prog.Holds performQuiesce (QuiesceNode.Claimed services since) (fun _ _ => True) (fun _ _ => True)
      (quiesce manager request) node := by
  refine Prog.holds_bind (existingWindow_claimed request h) fun existing before hclaimed hexisting => ?_
  cases existing with
  | some state =>
    dsimp only
    split
    · exact Prog.holds_raise hclaimed trivial
    · exact Prog.holds_pure hclaimed trivial
  | none =>
    have hkeeps : ∀ {α : Type} {prog : QuiesceProg α} {before : QuiesceNode},
        Prog.Only (QuiesceCommand.StopsAmong []) prog → before.Released services since →
          Prog.Holds performQuiesce (QuiesceNode.Claimed services since)
            (fun _ => QuiesceNode.Released services since) (fun _ _ => True) prog before :=
      fun honly hb => (released_of_only (only_keepsFile [] honly) hb).mono (fun _ hb => hb) (fun _ _ _ hb => hb)
        fun _ _ _ _ => trivial
    refine Prog.holds_bind (hkeeps (only_serviceInventory _ _) (hexisting rfl)) fun inventory before _ hb => ?_
    refine Prog.holds_bind (hkeeps (only_resolveContainerTargets _) hb) fun targets before _ hb => ?_
    refine Prog.holds_bind (hkeeps only_readBootId hb) fun bootId before _ hb => ?_
    exact fillWindow_claimed manager request rfl hb

/-! ### The other calls -/

/-- A write that keeps the phase and the services and carries a claim keeps what is known of the window. -/
private theorem rewriteState_claimed {next : QuiesceState} (h : node.Claimed services since)
    (hfile : some state = node.file) (hphase : next.phase = state.phase)
    (hservices : next.activeServices = state.activeServices) (hissued : next.resetIssued.isSome = true) :
    Prog.Holds performQuiesce (QuiesceNode.Claimed services since) (fun _ _ => True) (fun _ _ => True)
      (runCommand (.writeState next)) node := by
  have hstep : ∀ outcome, (performQuiesce node (.writeState next) outcome).1.Claimed services since := by
    intro outcome
    obtain ⟨events, hlog, hwindow⟩ := h
    refine ⟨events ++ [⟨.writeState next, outcome⟩], by rw [performQuiesce_log, hlog, List.append_assoc], ?_⟩
    simp only [performQuiesce]
    rcases hwindow with ⟨held, hheld, hnames, hphases⟩ | ⟨hrestored, hquiesced⟩
    · refine .inl ?_
      rw [hheld] at hfile
      cases hfile
      split
      · refine ⟨next, rfl, hservices.trans hnames, ?_⟩
        rw [hphase]
        exact hphases.imp_left fun hclaim => ⟨hclaim.1, hissued⟩
      · exact ⟨state, hheld, hnames, hphases⟩
    · refine .inr ⟨hrestored.append _, fun found hfound hstate => ?_⟩
      split at hfound
      · cases hfound
        exact (hquiesced state hfile.symm (hphase ▸ hstate)).append _
      · exact (hquiesced found hfound hstate).append _
  exact Prog.holds_call h hstep (fun _ _ _ => trivial) fun _ _ _ => trivial

private theorem assertQuiesced_claimed (commandId : Option String) (forReset : Bool) (attempt : Option Nat)
    (now : String) (h : node.Claimed services since) :
    Prog.Holds performQuiesce (QuiesceNode.Claimed services since) (fun _ _ => True) (fun _ _ => True)
      (assertQuiesced commandId forReset attempt now) node := by
  refine Prog.holds_bind (readState_claimed h) fun found before hclaimed hfound => ?_
  cases found with
  | none => exact Prog.holds_raise hclaimed trivial
  | some state =>
    dsimp only
    split
    · exact Prog.holds_raise hclaimed trivial
    split
    · split
      · exact Prog.holds_raise hclaimed trivial
      · exact rewriteState_claimed hclaimed hfound rfl rfl rfl
    · exact Prog.holds_pure hclaimed trivial

private theorem recordResetScope_claimed (scope : String) (h : node.Claimed services since) :
    Prog.Holds performQuiesce (QuiesceNode.Claimed services since) (fun _ _ => True) (fun _ _ => True)
      (recordResetScope scope) node := by
  refine Prog.holds_tryExcept (Y := fun _ _ => True) ?_ fun _ after hafter _ => Prog.holds_pure hafter trivial
  refine Prog.holds_bind (readState_claimed h) fun found before hclaimed hfound => ?_
  cases found with
  | none => exact Prog.holds_pure hclaimed trivial
  | some state =>
    dsimp only
    split
    · exact Prog.holds_pure hclaimed trivial
    · exact rewriteState_claimed hclaimed hfound rfl rfl rfl

private theorem reconcileAfterBoot_claimed (h : node.Claimed services since) :
    Prog.Holds performQuiesce (QuiesceNode.Claimed services since) (fun _ _ => True) (fun _ _ => True)
      reconcileAfterBoot node := by
  refine Prog.holds_bind (claimed_of_only only_readBootId h) fun boot before hclaimed _ => ?_
  refine Prog.holds_bind (M := fun _ _ => True) (Prog.holds_tryExcept ((readState_claimed hclaimed).mono
    (fun _ hb => hb) (fun _ _ _ _ => trivial) fun _ _ _ hb => hb) fun _ after hafter _ =>
      Prog.holds_pure hafter trivial) fun found before hclaimed _ => ?_
  cases found with
  | none => exact Prog.holds_pure hclaimed trivial
  | some state =>
    dsimp only
    split
    · exact Prog.holds_pure hclaimed trivial
    have honly : Prog.Only (QuiesceCommand.StopsAmong []) (timerStillArmed state) :=
      Prog.only_ite (Prog.only_call trivial) Prog.only_pure
    refine Prog.holds_bind (claimed_of_only honly hclaimed) fun armed before hclaimed _ => ?_
    split
    · exact Prog.holds_pure hclaimed trivial
    · exact Prog.holds_tryExcept (Prog.holds_bind (restoreLocked_claimed false hclaimed) fun _ after hafter _ =>
        Prog.holds_pure hafter trivial) fun _ after hafter _ => Prog.holds_pure hafter trivial

private theorem restore_claimed (h : node.Claimed services since) :
    Prog.Holds performQuiesce (QuiesceNode.Claimed services since) (fun _ _ => True) (fun _ _ => True) restore
      node := by
  refine Prog.holds_bind (restoreLocked_claimed true h) fun result before hclaimed _ => ?_
  split
  · exact Prog.holds_pure hclaimed trivial
  · exact Prog.holds_bind (claimed_of_only only_snapshotPersistence hclaimed) fun _ after hafter _ =>
      Prog.holds_pure hafter trivial

private theorem QuiesceCall.prog_claimed (c : QuiesceCall) (h : node.Claimed services since) :
    Prog.Holds performQuiesce (QuiesceNode.Claimed services since) (fun _ _ => True) (fun _ _ => True) c.prog
      node := by
  cases c with
  | quiesce manager request =>
    exact Prog.holds_bind (quiesce_claimed manager request h) fun _ _ hb _ => Prog.holds_pure hb trivial
  | assertQuiesced commandId forReset attempt now => exact assertQuiesced_claimed commandId forReset attempt now h
  | recordResetScope scope => exact recordResetScope_claimed scope h
  | restore => exact Prog.holds_bind (restore_claimed h) fun _ _ hb _ => Prog.holds_pure hb trivial
  | restoreStateFile waitForContainers =>
    exact Prog.holds_bind (restoreLocked_claimed waitForContainers h) fun _ _ hb _ => Prog.holds_pure hb trivial
  | reconcileAfterBoot => exact reconcileAfterBoot_claimed h

/-! ### Runs -/

/-- What happens to a node: a call on the incident's window, or a reboot, which takes the timer and leaves the
file. -/
inductive QuiesceInput
  | call (c : QuiesceCall) (outcomes : List Outcome)
  | reboot (bootId : String)

def QuiesceNode.step (node : QuiesceNode) : QuiesceInput → QuiesceNode
  | .call c outcomes => node.call (c, outcomes)
  | .reboot bootId => { node with bootId := bootId, timer := false, stopped := [] }

private theorem QuiesceNode.Claimed.step (h : node.Claimed services since) (i : QuiesceInput) :
    (node.step i).Claimed services since := by
  cases i with
  | call c outcomes => exact ((c.prog_claimed h).run outcomes).1
  | reboot bootId => exact h

/-- An `assert_quiesced` for a reset, with how its commands end. -/
structure ResetAttempt where
  commandId : Option String
  attempt : Option Nat
  now : String
  outcomes : List Outcome

def QuiesceNode.attemptReset (node : QuiesceNode) (reset : ResetAttempt) : QuiesceNode :=
  node.call (.assertQuiesced reset.commandId true reset.attempt reset.now, reset.outcomes)

def QuiesceNode.ClaimsReset (node : QuiesceNode) (reset : ResetAttempt) : Prop :=
  ((assertQuiesced reset.commandId true reset.attempt reset.now).run performQuiesce node reset.outcomes).2 =
    some (.ok ())

instance (node : QuiesceNode) (reset : ResetAttempt) : Decidable (node.ClaimsReset reset) :=
  inferInstanceAs (Decidable (_ = _))

/-- A claim finds a `QUIESCED` file without one and leaves it there with one. -/
private theorem assertQuiesced_claims (commandId : Option String) (attempt : Option Nat) (now : String)
    (node : QuiesceNode) :
    Prog.Holds performQuiesce (fun _ => True)
      (fun _ after => ∃ state, node.file = some state ∧ state.phase = .quiesced ∧ state.resetIssued = none ∧
        after.Held state.activeServices)
      (fun _ _ => True) (assertQuiesced commandId true attempt now) node := by
  refine Prog.holds_bind (M := fun found _ => found = node.file) (Prog.holds_call trivial (fun _ => trivial)
    (fun outcome answer hok => ?_) fun _ _ _ => trivial) fun found before _ hfound => ?_
  · cases outcome with
    | answers yes lines =>
      cases hok
      rfl
    | raises effect text => cases hok
  cases found with
  | none => exact Prog.holds_raise trivial trivial
  | some state =>
    dsimp only
    split
    · exact Prog.holds_raise trivial trivial
    rename_i hphase
    rw [if_pos rfl]
    split
    · exact Prog.holds_raise trivial trivial
    · rename_i hnone
      refine Prog.holds_call (e := QuiesceCommand.writeState _) trivial (fun _ => trivial)
        (fun outcome answer hok => ?_)
        fun _ _ _ => trivial
      refine ⟨state, hfound.symm, not_not.mp hphase, hnone, ?_⟩
      cases outcome with
      | answers yes lines => exact ⟨_, rfl, rfl, .inl ⟨not_not.mp hphase, rfl⟩⟩
      | raises effect text => cases hok

/-- Between two claims of a reset there is a restore that started every service of the first window, found each of
them active and removed its file, and after it a quiesce that reached `QUIESCED`. -/
theorem claims_apart_by_restore_and_quiesce (node : QuiesceNode) (first second : ResetAttempt)
    (inputs : List QuiesceInput) (hfirst : node.ClaimsReset first)
    (hsecond : (Run.exec QuiesceNode.step (node.attemptReset first) inputs).ClaimsReset second) :
    ∃ window events, node.file = some window ∧
      (Run.exec QuiesceNode.step (node.attemptReset first) inputs).log = (node.attemptReset first).log ++ events ∧
      ReopenedIn window.activeServices events := by
  obtain ⟨window, hwindow, -, -, hheld⟩ :=
    ((assertQuiesced_claims first.commandId first.attempt first.now node).run first.outcomes).2.1 () hfirst
  set claimed := node.attemptReset first
  have hstart : claimed.Claimed window.activeServices claimed.log := ⟨[], by simp, .inl hheld⟩
  have hend : (Run.exec QuiesceNode.step claimed inputs).Claimed window.activeServices claimed.log :=
    Run.invariant_exec (I := QuiesceNode.Claimed window.activeServices claimed.log) (P := fun _ _ => True)
      (fun _ i hb _ => hb.step i) hstart (Run.along_true _ _)
  obtain ⟨state, hfile, hphase, hnone, -⟩ :=
    ((assertQuiesced_claims second.commandId second.attempt second.now _).run second.outcomes).2.1 () hsecond
  obtain ⟨events, hlog, ⟨held, hheld, -, hphases⟩ | hrestored⟩ := hend
  · rw [hfile] at hheld
    cases hheld
    simp [hphase, hnone] at hphases
  · exact ⟨window, events, hwindow, hlog, hrestored.2 state hfile hphase⟩

/-- A quiesce of `kubelet` in which every command answers. -/
def kubeletQuiesce : QuiesceInput :=
  .call (.quiesce { services := ["kubelet"], key := fun _ => "k" } { incidentId := "i", workflowRequestId := "w" })
    (List.replicate 15 (.answers true []))

def kubeletQuiesced : QuiesceNode := (QuiesceNode.booted none false "boot").step kubeletQuiesce

def kubeletReset (commandId : String) : ResetAttempt :=
  { commandId := some commandId, attempt := none, now := "now", outcomes := List.replicate 2 (.answers true []) }

theorem claims_apart_by_restore_and_quiesce_kubelet :
    ∃ window events, kubeletQuiesced.file = some window ∧
      (Run.exec QuiesceNode.step (kubeletQuiesced.attemptReset (kubeletReset "reset-1"))
        [.call .restore (List.replicate 9 (.answers true [])), kubeletQuiesce]).log =
          (kubeletQuiesced.attemptReset (kubeletReset "reset-1")).log ++ events ∧
      ReopenedIn window.activeServices events :=
  claims_apart_by_restore_and_quiesce kubeletQuiesced (kubeletReset "reset-1") (kubeletReset "reset-2")
    [.call .restore (List.replicate 9 (.answers true [])), kubeletQuiesce] (by decide) (by decide)

end GpuFaultRecovery
