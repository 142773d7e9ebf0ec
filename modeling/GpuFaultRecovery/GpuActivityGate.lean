import Mathlib.Data.List.AList
import GpuFaultRecovery.QuiesceManager
import GpuFaultRecovery.Models
import GpuFaultRecovery.ListEdits
import GpuFaultRecovery.Run

/-!
# GPU work of the agent against quiesce windows

An action that opens GPU clients of its own registers with the gate, then looks for a quiesce window of another
incident: first the QUIESCE calls in progress, then the state files, one by one. A QUIESCE marks its incident and
flags every foreign activity in one critical section, then works on its state file under the file's lock and takes the
mark back when it is done. The sections of the gate and the steps on the files interleave in any order.
-/

namespace GpuFaultRecovery

/-- `GPU_ACTIVITY_OPERATIONS`. -/
def gpuActivityOperation (operation : WorkflowOperation) : Bool :=
  [.runDcgmDiagnostic, .collectDiagnosticBundle, .collectHungTriage, .collectHungSummary, .runFieldDiagnostic,
    .runNvlink74Workflow, .triggerHealthSnapshot].contains operation

/-! ### The parties -/

/-- Where an action is: it registers, reads the marks, lists the files and reads them, runs its handler, and has its
outcome decided. `foreign` tells whether a window of another incident was seen so far. -/
inductive ActivityPhase where
  | registered
  | sawOpening (foreign : Bool)
  | reading (paths : List String) (foreign : Bool)
  | running
  | returned (error : Bool)
  | refused
  | done (succeeded : Bool)
deriving DecidableEq, Repr

structure GpuActivity where
  operation : WorkflowOperation
  incidentId : String
  overlappedBy : Option String := none
  phase : ActivityPhase := .registered
deriving DecidableEq, Repr

/-- Whether the gate still has the activity among those in flight. -/
def GpuActivity.inFlight (activity : GpuActivity) : Bool :=
  match activity.phase with
  | .refused | .done _ => false
  | _ => true

inductive WindowAction where
  | quiesce (request : QuiesceRequest)
  | restore (incidentId : String)
deriving DecidableEq, Repr

def WindowAction.incidentId : WindowAction → String
  | .quiesce request => request.incidentId
  | .restore incidentId => incidentId

/-- Where an action on a window is; under the lock it has the rest of its program. -/
inductive WindowPhase where
  | waiting
  | locked (prog : QuiesceProg Unit)
  | unlocked
  | closed

structure WindowCall where
  action : WindowAction
  phase : WindowPhase := .waiting

def WindowCall.opens (call : WindowCall) : Bool :=
  match call.action, call.phase with
  | .quiesce _, .closed => false
  | .quiesce _, _ => true
  | .restore _, _ => false

def WindowCall.holdsLock (call : WindowCall) : Bool :=
  match call.phase with
  | .locked _ => true
  | _ => false

/-- The agent: the state files of its directory, the marks of the QUIESCE calls in progress, and the actions. -/
structure AgentNode where
  files : AList fun _ : String => QuiesceState
  opening : List String := []
  activities : List GpuActivity := []
  calls : List WindowCall := []

section Agent

variable (manager : QuiesceManager) (bootId : String)

def statePath (incidentId : String) : String := "quiesce-" ++ manager.key incidentId ++ ".json"

/-- Whether a file is a window of this boot; without a boot id on either side it counts. -/
def ofThisBoot (state : QuiesceState) : Bool :=
  !(state.bootId.any fun recorded => recorded != "" && bootId != "" && recorded != bootId)

/-- Whether the file under a path is a window of another incident. -/
def foreignFile (file : Option QuiesceState) (incidentId : String) : Bool :=
  file.any fun state => ofThisBoot bootId state && state.incidentId != incidentId

/-! ### The gate -/

/-- `open_window`, its mark and its flags: each foreign activity in flight that is not flagged yet is. -/
def GpuActivity.flaggedBy (incidentId : String) (activity : GpuActivity) : GpuActivity :=
  if activity.inFlight && activity.incidentId != incidentId && activity.overlappedBy.isNone then
    { activity with overlappedBy := some incidentId }
  else activity

/-- What an event does to the activity it is about. -/
inductive ActivityEvent where
  | readOpening
  | listFiles
  | readFile (raises : Bool)
  | start
  | abandon
  | finish (error : Bool)
  | judge
deriving DecidableEq, Repr

def activityStep (s : AgentNode) (activity : GpuActivity) (event : ActivityEvent) : GpuActivity :=
  match event, activity.phase with
  | .readOpening, .registered =>
    { activity with phase := .sawOpening (s.opening.any fun owner => owner != activity.incidentId) }
  | .listFiles, .sawOpening foreign => { activity with phase := .reading s.files.keys foreign }
  -- a file that cannot be read is a window with no owner
  | .readFile raises, .reading (path :: paths) foreign =>
    { activity with
      phase := .reading paths (foreign || raises || foreignFile bootId (s.files.lookup path) activity.incidentId) }
  | .start, .reading [] foreign => { activity with phase := if foreign then .refused else .running }
  | .abandon, .registered | .abandon, .sawOpening _ | .abandon, .reading _ _ => { activity with phase := .refused }
  | .finish error, .running => { activity with phase := .returned error }
  | .judge, .returned error => { activity with phase := .done (!error && activity.overlappedBy.isNone) }
  | _, _ => activity

/-! ### The window calls -/

def WindowAction.prog : WindowAction → QuiesceProg Unit
  | .quiesce request => do
    let _ ← GpuFaultRecovery.quiesce manager request
    pure ()
  | .restore _ => do
    let _ ← restoreLocked true
    pure ()

def performOnFile (files : Option QuiesceState × Option QuiesceState) (command : QuiesceCommand) (outcome : Outcome) :
    (Option QuiesceState × Option QuiesceState) × Except String command.Answer :=
  let performed := performQuiesce (QuiesceNode.booted files.2 false bootId) command outcome
  ((files.2, performed.1.file), performed.2)

def writeFile (files : AList fun _ : String => QuiesceState) (path : String) :
    Option QuiesceState → AList fun _ : String => QuiesceState
  | some state => files.insert path state
  | none => files.erase path

/-- What can happen to the action at an index of `calls`. -/
inductive CallEvent where
  | lock
  | act (outcome : Outcome)
  | unlock
  | close

def lockTaken (s : AgentNode) (path : String) : Bool :=
  s.calls.any fun call => call.holdsLock && statePath manager call.action.incidentId == path

def AgentNode.setPhase (s : AgentNode) (index : Nat) (phase : WindowPhase) : AgentNode :=
  { s with calls := s.calls.modify index fun call => { call with phase } }

def AgentNode.acted (s : AgentNode) (index : Nat) (call : WindowCall) (command : QuiesceCommand)
    (next : Except String command.Answer → QuiesceProg Unit) (outcome : Outcome) : AgentNode :=
  let path := statePath manager call.action.incidentId
  let performed := performOnFile bootId (s.files.lookup path, s.files.lookup path) command outcome
  { s.setPhase index (.locked (next performed.2)) with files := writeFile s.files path performed.1.2 }

def windowStep (s : AgentNode) (index : Nat) (call : WindowCall) (event : CallEvent) : AgentNode :=
  let path := statePath manager call.action.incidentId
  match event, call.phase with
  | .lock, .waiting => if lockTaken manager s path then s else s.setPhase index (.locked (call.action.prog manager))
  | .act outcome, .locked (.act command next) => s.acted manager bootId index call command next outcome
  | .unlock, .locked (.ret _) | .unlock, .locked (.raise _) => s.setPhase index .unlocked
  -- `finally: close_opening`, also of a call that never got the lock
  | .close, .waiting | .close, .unlocked =>
    let closed := s.setPhase index .closed
    if call.opens then { closed with opening := s.opening.erase call.action.incidentId } else closed
  | _, _ => s

inductive GateEvent where
  | register (operation : WorkflowOperation) (incidentId : String)
  | activity (index : Nat) (event : ActivityEvent)
  | open (action : WindowAction)
  | call (index : Nat) (event : CallEvent)

def gateStep (s : AgentNode) : GateEvent → AgentNode
  | .register operation incidentId =>
    if gpuActivityOperation operation then { s with activities := s.activities ++ [{ operation, incidentId }] } else s
  | .activity index event =>
    { s with activities := s.activities.modify index fun activity => activityStep bootId s activity event }
  | .open action =>
    let called := { s with calls := s.calls ++ [{ action }] }
    match action with
    | .quiesce request =>
      { called with
        opening := request.incidentId :: s.opening
        activities := s.activities.map (GpuActivity.flaggedBy request.incidentId) }
    | .restore _ => called
  | .call index event =>
    match s.calls[index]? with
    | none => s
    | some call => windowStep manager bootId s index call event

end Agent

/-! ### What a locked program does to its file -/

section Programs

variable {bootId : String} {files : Option QuiesceState × Option QuiesceState} {own : Option String}
  {manager : QuiesceManager}

/-- The last step left no window that is not `own` and was not there before it. -/
def Rewrites (own : Option String) (files : Option QuiesceState × Option QuiesceState) : Prop :=
  ∀ after, files.2 = some after → own = some after.incidentId ∨
    ∃ before, files.1 = some before ∧ before.incidentId = after.incidentId ∧ before.bootId = after.bootId

private theorem rewrites_self (file : Option QuiesceState) : Rewrites own (file, file) :=
  fun after h => .inr ⟨after, h, rfl, rfl⟩

private theorem rewrites_none (file : Option QuiesceState) : Rewrites own (file, none) := fun after h => by cases h

def QuiesceCommand.LeavesFile : QuiesceCommand → Prop
  | .writeState _ | .unlinkState => False
  | _ => True

private theorem performOnFile_of_leavesFile {command : QuiesceCommand} (h : command.LeavesFile) (outcome : Outcome) :
    (performOnFile bootId files command outcome).1 = (files.2, files.2) := by
  simp only [performOnFile, performQuiesce]
  split
  · cases command with
    | writeState _ => cases h
    | unlinkState => cases h
    | _ => rfl
  · rfl

private theorem leavesFile_of_stopsAmong (services : List String) (command : QuiesceCommand)
    (h : command.StopsAmong services) : command.LeavesFile := by
  cases command with
  | writeState _ => cases h
  | unlinkState => cases h
  | _ => trivial

private theorem holds_of_leavesFile {α : Type} {p : QuiesceProg α} {file : Option QuiesceState}
    (h : Prog.Only QuiesceCommand.LeavesFile p) (hrewrites : Rewrites own files) (hfile : files.2 = file) :
    Prog.Holds (performOnFile bootId) (Rewrites own) (fun _ after => after.2 = file) (fun _ after => after.2 = file) p
      files := by
  have hstep : ∀ w command outcome, QuiesceCommand.LeavesFile command → Rewrites own w ∧ w.2 = file →
      Rewrites own (performOnFile bootId w command outcome).1 ∧
        (performOnFile bootId w command outcome).1.2 = file := by
    intro w command outcome hcommand hw
    rw [performOnFile_of_leavesFile hcommand]
    exact ⟨rewrites_self _, hw.2⟩
  exact (h.holds hstep ⟨hrewrites, hfile⟩).mono (fun _ hw => hw.1) (fun _ _ _ hw => hw.2) (fun _ _ _ hw => hw.2)

/-- Whether a program may write `state` over the file it has. -/
def MayWrite (own : Option String) (file : Option QuiesceState) (state : QuiesceState) : Prop :=
  Rewrites own (file, some state)

private theorem mayWrite_own {file : Option QuiesceState} {state : QuiesceState} (h : own = some state.incidentId) :
    MayWrite own file state := by
  intro after hafter
  obtain rfl := Option.some.inj hafter
  exact .inl h

private theorem mayWrite_over {file : Option QuiesceState} {before state : QuiesceState} (hfile : file = some before)
    (hincident : before.incidentId = state.incidentId) (hboot : before.bootId = state.bootId) :
    MayWrite own file state := by
  intro after hafter
  obtain rfl := Option.some.inj hafter
  exact .inr ⟨before, hfile, hincident, hboot⟩

/-- A write leaves the written file, or the one before if it raised. -/
private theorem holds_writeState {state : QuiesceState} (hrewrites : Rewrites own files)
    (h : MayWrite own files.2 state) :
    Prog.Holds (performOnFile bootId) (Rewrites own) (fun _ after => after.2 = some state) (fun _ _ => True)
      (runCommand (.writeState state)) files := by
  have hafter : ∀ outcome, (performOnFile bootId files (.writeState state) outcome).1 = (files.2, some state) ∨
      (performOnFile bootId files (.writeState state) outcome).1 = (files.2, files.2) := by
    intro outcome
    simp only [performOnFile, performQuiesce]
    split
    · exact .inl rfl
    · exact .inr rfl
  refine Prog.holds_call hrewrites (fun outcome => ?_) (fun outcome a hok => ?_) fun _ _ _ => trivial
  · rcases hafter outcome with he | he
    · rw [he]
      exact h
    · rw [he]
      exact rewrites_self _
  · cases outcome with
    | answers yes lines => rfl
    | raises effect text => cases hok

private theorem holds_unlinkState (hrewrites : Rewrites own files) :
    Prog.Holds (performOnFile bootId) (Rewrites own) (fun _ _ => True) (fun _ _ => True) (runCommand .unlinkState)
      files := by
  refine Prog.holds_call hrewrites (fun outcome => ?_) (fun _ _ _ => trivial) fun _ _ _ => trivial
  simp only [performOnFile, performQuiesce]
  split
  · exact rewrites_none _
  · exact rewrites_self _

private theorem holds_readState (hrewrites : Rewrites own files) :
    Prog.Holds (performOnFile bootId) (Rewrites own) (fun answer after => answer = after.2) (fun _ _ => True)
      (runCommand .readState) files := by
  have hleaves : QuiesceCommand.LeavesFile .readState := trivial
  refine Prog.holds_call (e := QuiesceCommand.readState) (X := fun _ _ => True) hrewrites (fun outcome => ?_)
    (fun outcome answer hok => ?_) fun _ _ _ => trivial
  · rw [performOnFile_of_leavesFile hleaves]
    exact rewrites_self _
  · cases outcome with
    | answers yes lines => exact (Except.ok.inj hok).symm
    | raises effect text => cases hok

private theorem only_startServices (services : List String) :
    Prog.Only QuiesceCommand.LeavesFile (startServices services) := by
  have hstart : ∀ service, Prog.Only QuiesceCommand.LeavesFile (runCommand (.start service)) :=
    fun service => Prog.only_call (by trivial)
  have hactive : ∀ service, Prog.Only QuiesceCommand.LeavesFile (runCommand (.isActive service)) :=
    fun service => Prog.only_call (by trivial)
  refine (Prog.only_forEach fun service _ => hstart service).bind fun _ => ?_
  refine (Prog.only_collect fun service _ => hactive service).bind fun active => ?_
  exact Prog.only_ite Prog.only_pure trivial

/-- The end of a restore removes the file. -/
private theorem closeWindow_rewrites (state : QuiesceState) (waitForContainers : Bool) (h : Rewrites own files) :
    Prog.Holds (performOnFile bootId) (Rewrites own) (fun _ _ => True) (fun _ _ => True)
      (closeWindow state waitForContainers) files := by
  have hwait :
      Prog.Only QuiesceCommand.LeavesFile (waitContainersRestored waitForContainers state.containerTargets) :=
    Prog.Only.mono (only_waitContainersRestored waitForContainers state.containerTargets)
      (leavesFile_of_stopsAmong [])
  have htimer : Prog.Only QuiesceCommand.LeavesFile (runCommand (.stopTimer (state.timerUnit ++ ".timer"))) :=
    Prog.only_call (by trivial)
  have hfailed : Prog.Only QuiesceCommand.LeavesFile (runCommand (.resetFailed (state.timerUnit ++ ".service"))) :=
    Prog.only_call (by trivial)
  refine Prog.holds_bind ((holds_of_leavesFile hwait h rfl).mono (fun _ hw => hw) (fun _ _ _ _ => trivial)
    fun _ _ _ _ => trivial) fun _ w hw (_ : True) => ?_
  refine Prog.holds_bind ((holds_of_leavesFile htimer hw rfl).mono (fun _ hw => hw) (fun _ _ _ _ => trivial)
    fun _ _ _ _ => trivial) fun _ w hw (_ : True) => ?_
  refine Prog.holds_bind ((holds_of_leavesFile hfailed hw rfl).mono (fun _ hw => hw) (fun _ _ _ _ => trivial)
    fun _ _ _ _ => trivial) fun _ w hw (_ : True) => ?_
  exact Prog.holds_bind (holds_unlinkState hw) fun _ w hw _ => Prog.holds_pure hw trivial

/-- A restore rewrites the file it found and removes it. -/
private theorem restoreLocked_rewrites (waitForContainers : Bool) (h : Rewrites own files) :
    Prog.Holds (performOnFile bootId) (Rewrites own) (fun _ _ => True) (fun _ _ => True)
      (restoreLocked waitForContainers) files := by
  refine Prog.holds_bind (holds_readState h) fun found w hw hfound => ?_
  cases found with
  | none => exact Prog.holds_pure hw trivial
  | some state =>
    dsimp only
    split
    · have hwrite : MayWrite own w.2 { state with phase := .restoring, resetIssued := none } :=
        mayWrite_over hfound.symm rfl rfl
      refine Prog.holds_bind (holds_writeState hw hwrite) fun _ w hw hfile => ?_
      refine Prog.holds_bind (Prog.holds_tryExcept
        (holds_of_leavesFile (only_startServices _) hw hfile) fun failure w hw hfile => ?_) fun _ w hw _ => ?_
      · refine Prog.holds_bind (holds_writeState hw (mayWrite_over hfile rfl rfl)) fun _ w hw _ => ?_
        exact Prog.holds_raise hw trivial
      · exact closeWindow_rewrites _ waitForContainers hw
    · exact Prog.holds_raise hw trivial

private theorem fillWindow_rewrites (request : QuiesceRequest) {state : QuiesceState}
    (hown : own = some state.incidentId) (h : Rewrites own files) :
    Prog.Holds (performOnFile bootId) (Rewrites own) (fun _ _ => True) (fun _ _ => True)
      (fillWindow manager request state) files := by
  have harm : Prog.Only QuiesceCommand.LeavesFile (armQuiesceFailsafe state.timerUnit) := by
    refine Prog.Only.bind (Prog.only_call (by trivial)) fun _ => Prog.only_call (by trivial)
  refine Prog.holds_bind (holds_writeState h (mayWrite_own hown)) fun _ w hw hfile => ?_
  refine Prog.holds_bind (Prog.holds_tryExcept (holds_of_leavesFile harm hw hfile) fun failure w hw _ =>
    Prog.holds_bind (holds_unlinkState hw) fun _ w hw _ => Prog.holds_raise hw trivial) fun _ w hw _ => ?_
  refine Prog.holds_bind (holds_writeState hw (mayWrite_own hown)) fun _ w hw hfile => ?_
  refine Prog.holds_bind (Prog.holds_tryExcept (holds_of_leavesFile
    ((only_stopGpuClients manager request _).mono (leavesFile_of_stopsAmong _)) hw hfile) fun failure w hw _ =>
      Prog.holds_bind (holds_writeState hw (mayWrite_own hown)) fun _ w hw _ => Prog.holds_raise hw trivial)
        fun kept w hw _ => ?_
  exact Prog.holds_bind (holds_writeState hw (mayWrite_own hown)) fun _ w hw _ => Prog.holds_pure hw trivial

private theorem openWindow_rewrites (request : QuiesceRequest) (h : Rewrites (some request.incidentId) files) :
    Prog.Holds (performOnFile bootId) (Rewrites (some request.incidentId)) (fun _ _ => True) (fun _ _ => True)
      (openWindow manager request) files := by
  have hquiet : ∀ {α : Type} {p : QuiesceProg α} {w : Option QuiesceState × Option QuiesceState},
      Prog.Only (QuiesceCommand.StopsAmong []) p → Rewrites (some request.incidentId) w →
      Prog.Holds (performOnFile bootId) (Rewrites (some request.incidentId)) (fun _ _ => True)
        (fun _ _ => True) p w := by
    intro α p w hp hw
    exact (holds_of_leavesFile (hp.mono (leavesFile_of_stopsAmong [])) hw rfl).mono (fun _ hw => hw)
      (fun _ _ _ _ => trivial) fun _ _ _ _ => trivial
  refine Prog.holds_bind (hquiet (only_serviceInventory manager _) h) fun services w hw _ => ?_
  refine Prog.holds_bind (hquiet (only_resolveContainerTargets manager) hw) fun targets w hw _ => ?_
  refine Prog.holds_bind (hquiet only_readBootId hw) fun boot w hw _ => ?_
  exact fillWindow_rewrites request rfl hw

private theorem restoreFailedWindow_rewrites (existing : QuiesceState) (h : Rewrites own files) :
    Prog.Holds (performOnFile bootId) (Rewrites own) (fun _ _ => True) (fun _ _ => True)
      (restoreFailedWindow existing) files := by
  have hinline : Prog.Holds (performOnFile bootId) (Rewrites own) (fun _ _ => True) (fun _ _ => True)
      (do
        let _ ← restoreInline existing.phase
        pure none : QuiesceProg (Option QuiesceState)) files := by
    refine Prog.holds_bind (Prog.holds_tryExcept (restoreLocked_rewrites true h) fun failure w hw _ =>
      Prog.holds_raise hw trivial) fun _ w hw _ => Prog.holds_pure hw trivial
  unfold restoreFailedWindow
  split
  · exact Prog.holds_pure h trivial
  · exact hinline
  · exact hinline
  · exact Prog.holds_raise h trivial
  · exact Prog.holds_raise h trivial
  · exact Prog.holds_raise h trivial

private theorem quiesce_rewrites (request : QuiesceRequest) (h : Rewrites (some request.incidentId) files) :
    Prog.Holds (performOnFile bootId) (Rewrites (some request.incidentId)) (fun _ _ => True) (fun _ _ => True)
      (quiesce manager request) files := by
  have hexisting : Prog.Holds (performOnFile bootId) (Rewrites (some request.incidentId)) (fun _ _ => True)
      (fun _ _ => True) (existingWindow request) files := by
    refine Prog.holds_bind (holds_readState h) fun found w hw _ => ?_
    cases found with
    | none => exact Prog.holds_pure hw trivial
    | some state =>
      dsimp only
      split
      · exact Prog.holds_raise hw trivial
      · exact restoreFailedWindow_rewrites state hw
  refine Prog.holds_bind hexisting fun existing w hw _ => ?_
  cases existing with
  | none => exact openWindow_rewrites request hw
  | some state =>
    dsimp only
    split
    · exact Prog.holds_raise hw trivial
    · exact Prog.holds_pure hw trivial

def WindowAction.creates : WindowAction → Option String
  | .quiesce request => some request.incidentId
  | .restore _ => none

/-- The rest of a locked program keeps to the windows it may create, from the file as it is. -/
def KeepsWindows (bootId : String) (action : WindowAction) (prog : QuiesceProg Unit) (file : Option QuiesceState) :
    Prop :=
  Prog.Holds (performOnFile bootId) (Rewrites action.creates) (fun _ _ => True) (fun _ _ => True) prog (file, file)

private theorem keepsWindows_prog (action : WindowAction) (file : Option QuiesceState) :
    KeepsWindows bootId action (action.prog manager) file := by
  cases action with
  | quiesce request =>
    exact Prog.holds_bind (quiesce_rewrites request (rewrites_self file)) fun _ w hw _ => Prog.holds_pure hw trivial
  | restore incidentId =>
    exact Prog.holds_bind (restoreLocked_rewrites true (rewrites_self file)) fun _ w hw _ =>
      Prog.holds_pure hw trivial

private theorem holds_forget {action : WindowAction} {prog : QuiesceProg Unit} {before file : Option QuiesceState}
    (h : Prog.Holds (performOnFile bootId) (Rewrites action.creates) (fun _ _ => True) (fun _ _ => True) prog
      (before, file)) :
    Rewrites action.creates (before, file) ∧ KeepsWindows bootId action prog file := by
  cases prog with
  | ret _ => exact ⟨h.1, rewrites_self file, trivial⟩
  | raise _ => exact ⟨h.1, rewrites_self file, trivial⟩
  | act command next => exact ⟨h.1, rewrites_self file, h.2⟩

private theorem KeepsWindows.act {action : WindowAction} {command : QuiesceCommand}
    {next : Except String command.Answer → _}
    {file : Option QuiesceState} (h : KeepsWindows bootId action (.act command next) file) (outcome : Outcome) :
    Rewrites action.creates (file, (performOnFile bootId (file, file) command outcome).1.2) ∧
      KeepsWindows bootId action (next (performOnFile bootId (file, file) command outcome).2)
        (performOnFile bootId (file, file) command outcome).1.2 :=
  holds_forget (h.2 outcome)

end Programs

/-! ### Windows and activities over a run -/

section Runs

variable {manager : QuiesceManager} {bootId : String} {s : AgentNode} {activity : GpuActivity} {incidentId : String}

def ForeignWindow (bootId : String) (s : AgentNode) (incidentId : String) : Prop :=
  (∃ call ∈ s.calls, call.opens = true ∧ call.action.incidentId ≠ incidentId) ∨
    ∃ path, foreignFile bootId (s.files.lookup path) incidentId = true

def NoForeignMark (s : AgentNode) (incidentId : String) : Prop := ∀ owner ∈ s.opening, owner = incidentId

/-- What an activity that is not flagged knows: no foreign mark once it read none, no foreign file but those it has
not read yet, and none at all in its handler. -/
def ActivitySafe (bootId : String) (s : AgentNode) (activity : GpuActivity) : Prop :=
  activity.overlappedBy = none →
    match activity.phase with
    | .sawOpening false => NoForeignMark s activity.incidentId
    | .reading paths false => NoForeignMark s activity.incidentId ∧
      ∀ path, foreignFile bootId (s.files.lookup path) activity.incidentId = true → path ∈ paths
    | .running | .returned _ => NoForeignMark s activity.incidentId ∧
      ∀ path, foreignFile bootId (s.files.lookup path) activity.incidentId = false
    | _ => True

/-- What holds of the marks, the locks and the files in every state: each QUIESCE in progress has its mark, one action
holds the lock of a path, and the rest of each locked program keeps to its windows. -/
structure WindowInv (manager : QuiesceManager) (bootId : String) (s : AgentNode) : Prop where
  marks : ∀ owner, s.opening.count owner =
    s.calls.countP fun call => call.opens && call.action.incidentId == owner
  exclusive : ∀ (i j : Nat) (call call' : WindowCall), s.calls[i]? = some call → s.calls[j]? = some call' →
    call.holdsLock = true → call'.holdsLock = true →
    statePath manager call.action.incidentId = statePath manager call'.action.incidentId → i = j
  keeps : ∀ (i : Nat) (call : WindowCall) (prog : QuiesceProg Unit), s.calls[i]? = some call →
    call.phase = .locked prog →
    KeepsWindows bootId call.action prog (s.files.lookup (statePath manager call.action.incidentId))

private theorem WindowInv.mem_opening {call : WindowCall} (h : WindowInv manager bootId s) (hcall : call ∈ s.calls)
    (hopens : call.opens = true) : call.action.incidentId ∈ s.opening := by
  rw [← List.count_pos_iff, h.marks, List.countP_pos_iff]
  exact ⟨call, hcall, by simp [hopens]⟩

/-! #### The lock -/

section Calls

variable {index : Nat} {call : WindowCall} {phase : WindowPhase}

private theorem marks_setPhase (h : WindowInv manager bootId s) (hcall : s.calls[index]? = some call)
    (hopens : { call with phase }.opens = call.opens) (owner : String) :
    (s.setPhase index phase).opening.count owner =
      (s.setPhase index phase).calls.countP fun call => call.opens && call.action.incidentId == owner := by
  have hcount := ListEdits.countP_modify (f := fun call => { call with phase })
    (fun call => call.opens && call.action.incidentId == owner) hcall
  dsimp only at hcount
  rw [hopens] at hcount
  have hmarks := h.marks owner
  simp only [AgentNode.setPhase]
  omega

private theorem WindowInv.of_holders {s' : AgentNode} (h : WindowInv manager bootId s) (hfiles : s'.files = s.files)
    (hmarks : ∀ owner, s'.opening.count owner =
      s'.calls.countP fun call => call.opens && call.action.incidentId == owner)
    (hold : ∀ (j : Nat) (other : WindowCall), s'.calls[j]? = some other → other.holdsLock = true →
      s.calls[j]? = some other) : WindowInv manager bootId s' := by
  refine ⟨hmarks, fun i j a b ha hb haheld hbheld => ?_, fun i a prog ha hprog => ?_⟩
  · exact h.exclusive i j a b (hold i a ha haheld) (hold j b hb hbheld) haheld hbheld
  · rw [hfiles]
    exact h.keeps i a prog (hold i a ha (by simp [WindowCall.holdsLock, hprog])) hprog

private theorem windowInv_of_unlocked (h : WindowInv manager bootId s) (hcall : s.calls[index]? = some call)
    (hopens : { call with phase }.opens = call.opens) (hlock : { call with phase }.holdsLock = false) :
    WindowInv manager bootId (s.setPhase index phase) := by
  refine h.of_holders rfl (marks_setPhase h hcall hopens) fun j other hother hheld => ?_
  rcases ListEdits.getElem?_modify_cases hother with ⟨rfl, before, hbefore, rfl⟩ | ⟨-, hother⟩
  · obtain rfl := Option.some.inj (hcall.symm.trans hbefore)
    rw [hlock] at hheld
    cases hheld
  · exact hother

/-- Taking a free lock. -/
private theorem windowInv_of_locked (h : WindowInv manager bootId s) (hcall : s.calls[index]? = some call)
    (hwaiting : call.phase = .waiting)
    (hfree : lockTaken manager s (statePath manager call.action.incidentId) = false) :
    WindowInv manager bootId (s.setPhase index (.locked (call.action.prog manager))) := by
  have hopens : { call with phase := WindowPhase.locked (call.action.prog manager) }.opens = call.opens := by
    unfold WindowCall.opens
    rw [hwaiting]
    split <;> simp_all
  have hothers : ∀ (j : Nat) (other : WindowCall), s.calls[j]? = some other → other.holdsLock = true →
      statePath manager other.action.incidentId ≠ statePath manager call.action.incidentId := by
    intro j other hother hheld hsame
    unfold lockTaken at hfree
    rw [List.any_eq_false] at hfree
    exact hfree other (List.mem_of_getElem? hother) (by simp [hheld, hsame])
  refine ⟨marks_setPhase h hcall hopens, fun i j a b ha hb haheld hbheld hpath => ?_, fun i a prog ha hprog => ?_⟩
  · rcases ListEdits.getElem?_modify_cases ha with ⟨rfl, a', ha', rfl⟩ | ⟨hi, ha⟩ <;>
      rcases ListEdits.getElem?_modify_cases hb with ⟨rfl, b', hb', rfl⟩ | ⟨hj, hb⟩
    · rfl
    · obtain rfl := Option.some.inj (hcall.symm.trans ha')
      exact absurd hpath.symm (hothers j b hb hbheld)
    · obtain rfl := Option.some.inj (hcall.symm.trans hb')
      exact absurd hpath (hothers i a ha haheld)
    · exact h.exclusive i j a b ha hb haheld hbheld hpath
  · rcases ListEdits.getElem?_modify_cases ha with ⟨rfl, a', ha', rfl⟩ | ⟨hi, ha⟩
    · obtain rfl := Option.some.inj (hcall.symm.trans ha')
      obtain rfl := WindowPhase.locked.inj hprog
      exact keepsWindows_prog call.action _
    · exact h.keeps i a prog ha hprog

private theorem lookup_writeFile (files : AList fun _ : String => QuiesceState) (path other : String)
    (file : Option QuiesceState) :
    (writeFile files path file).lookup other = if other = path then file else files.lookup other := by
  by_cases hsame : other = path
  · subst hsame
    rw [if_pos rfl]
    cases file with
    | some state => exact AList.lookup_insert _
    | none => exact AList.lookup_erase _ _
  · rw [if_neg hsame]
    cases file with
    | some state => exact AList.lookup_insert_ne hsame
    | none => exact AList.lookup_erase_ne hsame

variable {command : QuiesceCommand} {next : Except String command.Answer → QuiesceProg Unit} {outcome : Outcome}

private theorem windowInv_acted (h : WindowInv manager bootId s) (hcall : s.calls[index]? = some call)
    (hprog : call.phase = .locked (.act command next)) :
    WindowInv manager bootId (s.acted manager bootId index call command next outcome) := by
  have hkeeps := (h.keeps index call _ hcall hprog).act outcome
  have hheld : call.holdsLock = true := by simp [WindowCall.holdsLock, hprog]
  refine ⟨fun owner => ?_, fun i j a b ha hb haheld hbheld hpath => ?_, fun i a prog ha hlocked => ?_⟩
  · refine marks_setPhase h hcall ?_ owner
    unfold WindowCall.opens
    rw [hprog]
    split <;> simp_all
  · -- the locks are held by the same calls as before
    have hsame :
        ∀ (k : Nat) (other : WindowCall), (s.acted manager bootId index call command next outcome).calls[k]? =
        some other → other.holdsLock = true →
          ∃ before, s.calls[k]? = some before ∧ before.holdsLock = true ∧ before.action = other.action := by
      intro k other hother hlock
      rcases ListEdits.getElem?_modify_cases hother with ⟨rfl, before, hbefore, rfl⟩ | ⟨-, hother⟩
      · obtain rfl := Option.some.inj (hcall.symm.trans hbefore)
        exact ⟨call, hcall, hheld, rfl⟩
      · exact ⟨other, hother, hlock, rfl⟩
    obtain ⟨a', ha', halock, haction⟩ := hsame i a ha haheld
    obtain ⟨b', hb', hblock, hbction⟩ := hsame j b hb hbheld
    rw [← haction, ← hbction] at hpath
    exact h.exclusive i j a' b' ha' hb' halock hblock hpath
  · simp only [AgentNode.acted, lookup_writeFile]
    rcases ListEdits.getElem?_modify_cases ha with ⟨rfl, a', ha', rfl⟩ | ⟨hi, ha⟩
    · obtain rfl := Option.some.inj (hcall.symm.trans ha')
      obtain rfl := WindowPhase.locked.inj hlocked
      rw [if_pos rfl]
      exact hkeeps.2
    · have hne : statePath manager a.action.incidentId ≠ statePath manager call.action.incidentId := fun hpath =>
        hi (h.exclusive index i call a hcall ha hheld (by simp [WindowCall.holdsLock, hlocked]) hpath.symm)
      rw [if_neg hne]
      exact h.keeps i a prog ha hlocked

/-- A command of a locked program brings no foreign window to an incident without a foreign mark. -/
private theorem foreignFile_acted (h : WindowInv manager bootId s) (hcall : s.calls[index]? = some call)
    (hprog : call.phase = .locked (.act command next)) (hmarks : NoForeignMark s incidentId) {path : String}
    (hforeign : foreignFile bootId ((s.acted manager bootId index call command next outcome).files.lookup path)
      incidentId = true) : foreignFile bootId (s.files.lookup path) incidentId = true := by
  simp only [AgentNode.acted, lookup_writeFile] at hforeign
  by_cases hpath : path = statePath manager call.action.incidentId
  · subst hpath
    rw [if_pos rfl] at hforeign
    have hrewrites := ((h.keeps index call _ hcall hprog).act outcome).1
    obtain ⟨after, hafter, hwindow⟩ := (Option.any_eq_true _ _).mp hforeign
    rcases hrewrites after hafter with hown | ⟨before, hbefore, hincident, hboot⟩
    · -- the window is the one of a QUIESCE in progress, which has its mark
      have hquiesce : ∃ request, call.action = .quiesce request ∧ request.incidentId = after.incidentId := by
        cases haction : call.action with
        | quiesce request =>
          rw [haction] at hown
          exact ⟨request, rfl, Option.some.inj hown⟩
        | restore _ =>
          rw [haction] at hown
          cases hown
      obtain ⟨request, haction, hincident⟩ := hquiesce
      have hopens : call.opens = true := by simp [WindowCall.opens, haction, hprog]
      have hmark := hmarks _ (h.mem_opening (List.mem_of_getElem? hcall) hopens)
      rw [haction] at hmark
      have hsame : after.incidentId = incidentId := hincident.symm.trans hmark
      simp [hsame] at hwindow
    · refine (Option.any_eq_true _ _).mpr ⟨before, hbefore, ?_⟩
      simpa [ofThisBoot, hincident, hboot] using hwindow
  · rwa [if_neg hpath] at hforeign

/-- The end of a QUIESCE takes one mark back. -/
private theorem windowInv_closed (h : WindowInv manager bootId s) (hcall : s.calls[index]? = some call)
    (hopens : call.opens = true) :
    WindowInv manager bootId
      { s.setPhase index .closed with opening := s.opening.erase call.action.incidentId } := by
  have hclosed : { call with phase := WindowPhase.closed }.opens = false := by
    unfold WindowCall.opens
    cases call.action <;> rfl
  refine h.of_holders rfl (fun owner => ?_) fun j other hother hheld => ?_
  · have hcount := ListEdits.countP_modify (f := fun call => { call with phase := WindowPhase.closed })
      (fun call => call.opens && call.action.incidentId == owner) hcall
    dsimp only at hcount
    rw [hopens, hclosed, Bool.true_and, Bool.false_and] at hcount
    have hmarks := h.marks owner
    simp only [AgentNode.setPhase, List.count_erase]
    simp only [Bool.false_eq_true, if_false] at hcount
    omega
  · rcases ListEdits.getElem?_modify_cases hother with ⟨rfl, before, hbefore, rfl⟩ | ⟨-, hother⟩
    · cases hheld
    · exact hother

/-- A new action waits for its lock. -/
private theorem windowInv_called (h : WindowInv manager bootId s) (action : WindowAction)
    (activities : List GpuActivity) :
    WindowInv manager bootId
      { s with
        opening := action.creates.toList ++ s.opening
        activities
        calls := s.calls ++ [{ action }] } := by
  refine h.of_holders rfl (fun owner => ?_) fun j other hother hheld => ?_
  · have hmarks := h.marks owner
    dsimp only
    rw [List.count_append, List.countP_append, hmarks, Nat.add_comm]
    congr 1
    cases action with
    | quiesce request => simp [WindowAction.creates, WindowCall.opens, WindowAction.incidentId, List.count_singleton]
    | restore _ => simp [WindowAction.creates, WindowCall.opens]
  · dsimp only at hother
    rw [List.getElem?_append] at hother
    split at hother
    · exact hother
    · rw [List.getElem?_singleton] at hother
      split at hother
      · obtain rfl := Option.some.inj hother
        cases hheld
      · cases hother

end Calls

/-! #### The activities -/

section Activities

variable {s' : AgentNode}

/-- What an activity knows stays true where marks and files only go. -/
private theorem ActivitySafe.mono (h : ActivitySafe bootId s activity)
    (hmarks : NoForeignMark s activity.incidentId → NoForeignMark s' activity.incidentId)
    (hfiles : NoForeignMark s activity.incidentId → ∀ path,
      foreignFile bootId (s'.files.lookup path) activity.incidentId = true →
        foreignFile bootId (s.files.lookup path) activity.incidentId = true) :
    ActivitySafe bootId s' activity := by
  intro hflag
  have hknown := h hflag
  cases hphase : activity.phase with
  | sawOpening foreign =>
    cases foreign with
    | true => trivial
    | false =>
      rw [hphase] at hknown
      exact hmarks hknown
  | reading paths foreign =>
    cases foreign with
    | true => trivial
    | false =>
      rw [hphase] at hknown
      exact ⟨hmarks hknown.1, fun path hforeign => hknown.2 path (hfiles hknown.1 path hforeign)⟩
  | running =>
    rw [hphase] at hknown
    refine ⟨hmarks hknown.1, fun path => Bool.eq_false_iff.mpr fun hforeign => ?_⟩
    exact Bool.eq_false_iff.mp (hknown.2 path) (hfiles hknown.1 path hforeign)
  | returned error =>
    rw [hphase] at hknown
    refine ⟨hmarks hknown.1, fun path => Bool.eq_false_iff.mpr fun hforeign => ?_⟩
    exact Bool.eq_false_iff.mp (hknown.2 path) (hfiles hknown.1 path hforeign)
  | registered => trivial
  | refused => trivial
  | done _ => trivial

private theorem activitySafe_flaggedBy (h : ActivitySafe bootId s activity)
    (hmarks : s'.opening = incidentId :: s.opening)
    (hfiles : s'.files = s.files) : ActivitySafe bootId s' (activity.flaggedBy incidentId) := by
  unfold GpuActivity.flaggedBy
  split
  · intro hflag
    cases hflag
  · rename_i hnot
    by_cases hown : activity.incidentId = incidentId
    · refine h.mono (fun hbefore owner howner => ?_) fun _ path hforeign => hfiles ▸ hforeign
      rw [hmarks, List.mem_cons] at howner
      rcases howner with rfl | howner
      · exact hown.symm
      · exact hbefore owner howner
    · -- it is flagged already, or no longer in flight
      intro hflag
      have hended : activity.inFlight = false := by simpa [hown, hflag] using hnot
      cases hphase : activity.phase with
      | refused => trivial
      | done _ => trivial
      | _ => simp [GpuActivity.inFlight, hphase] at hended

private theorem activitySafe_activityStep (h : ActivitySafe bootId s activity) (event : ActivityEvent) :
    ActivitySafe bootId s (activityStep bootId s activity event) := by
  unfold activityStep
  split
  · -- the marks are read
    intro hflag
    dsimp only
    cases hseen : s.opening.any fun owner => owner != activity.incidentId with
    | true => trivial
    | false =>
      intro owner howner
      rw [List.any_eq_false] at hseen
      simpa using hseen owner howner
  · -- the files are listed
    rename_i foreign hphase
    intro hflag
    have hknown := h hflag
    rw [hphase] at hknown
    cases foreign with
    | true => trivial
    | false =>
      refine ⟨hknown, fun path hforeign => ?_⟩
      obtain ⟨state, hstate, -⟩ := (Option.any_eq_true _ _).mp hforeign
      exact AList.mem_keys.mpr (AList.lookup_isSome.mp (by rw [hstate]; rfl))
  · -- one file is read
    rename_i raises path paths foreign hphase
    intro hflag
    have hknown := h hflag
    rw [hphase] at hknown
    dsimp only
    cases hseen : foreign || raises || foreignFile bootId (s.files.lookup path) activity.incidentId with
    | true => trivial
    | false =>
      rw [Bool.or_eq_false_iff, Bool.or_eq_false_iff] at hseen
      obtain ⟨⟨rfl, -⟩, hnot⟩ := hseen
      refine ⟨hknown.1, fun other hforeign => ?_⟩
      rcases List.mem_cons.mp (hknown.2 other hforeign) with rfl | hmem
      · rw [hnot] at hforeign
        cases hforeign
      · exact hmem
  · -- admission
    rename_i foreign hphase
    intro hflag
    have hknown := h hflag
    rw [hphase] at hknown
    cases foreign with
    | true => trivial
    | false =>
      refine ⟨hknown.1, fun path => Bool.eq_false_iff.mpr fun hforeign => ?_⟩
      exact List.not_mem_nil (hknown.2 path hforeign)
  · intro hflag
    trivial
  · intro hflag
    trivial
  · intro hflag
    trivial
  · -- the handler ends
    rename_i error hphase
    intro hflag
    have hknown := h hflag
    rw [hphase] at hknown
    exact hknown
  · intro hflag
    trivial
  · exact h

end Activities

/-! #### Runs -/

/-- The windows are in order, and every activity knows what is true. -/
structure GateInv (manager : QuiesceManager) (bootId : String) (s : AgentNode) : Prop
    extends WindowInv manager bootId s where
  safe : ∀ activity ∈ s.activities, ActivitySafe bootId s activity

private theorem WindowInv.activities (h : WindowInv manager bootId s) (activities : List GpuActivity) :
    WindowInv manager bootId { s with activities } :=
  ⟨h.marks, h.exclusive, h.keeps⟩

private theorem windowStep_gateInv (h : GateInv manager bootId s) {index : Nat} {call : WindowCall}
    (hcall : s.calls[index]? = some call) (event : CallEvent) :
    GateInv manager bootId (windowStep manager bootId s index call event) := by
  have hopens : ∀ phase, { call with phase }.opens = call.opens ∨ phase = .closed ∨ call.phase = .closed := by
    intro phase
    unfold WindowCall.opens
    cases call.action with
    | restore _ => exact .inl rfl
    | quiesce request =>
      cases phase with
      | closed => exact .inr (.inl rfl)
      | _ =>
        cases hphase : call.phase with
        | closed => exact .inr (.inr rfl)
        | _ => exact .inl rfl
  have hclose : GateInv manager bootId (if call.opens then
      { s.setPhase index .closed with opening := s.opening.erase call.action.incidentId }
      else s.setPhase index .closed) := by
    split
    · rename_i hopen
      refine ⟨windowInv_closed h.toWindowInv hcall hopen, fun activity hactivity => ?_⟩
      exact (h.safe activity hactivity).mono (fun hmarks owner howner => hmarks owner (List.mem_of_mem_erase howner))
        fun _ _ hforeign => hforeign
    · rename_i hopen
      have hclosed : { call with phase := WindowPhase.closed }.opens = call.opens := by
        rw [Bool.eq_false_iff.mpr hopen]
        unfold WindowCall.opens
        cases call.action <;> rfl
      exact ⟨windowInv_of_unlocked h.toWindowInv hcall hclosed rfl, h.safe⟩
  unfold windowStep
  dsimp only
  split
  · rename_i hwaiting
    split
    · exact h
    · rename_i hfree
      exact ⟨windowInv_of_locked h.toWindowInv hcall hwaiting (by simpa using hfree), h.safe⟩
  · rename_i outcome command next hprog
    refine ⟨windowInv_acted h.toWindowInv hcall hprog, fun activity hactivity => ?_⟩
    refine (h.safe activity hactivity).mono (fun hmarks => hmarks) fun hmarks path hforeign => ?_
    exact foreignFile_acted h.toWindowInv hcall hprog hmarks hforeign
  · rename_i hprog
    exact ⟨windowInv_of_unlocked h.toWindowInv hcall (by simpa [hprog] using hopens .unlocked) rfl, h.safe⟩
  · rename_i hprog
    exact ⟨windowInv_of_unlocked h.toWindowInv hcall (by simpa [hprog] using hopens .unlocked) rfl, h.safe⟩
  · exact hclose
  · exact hclose
  · exact h

private theorem gateStep_gateInv (h : GateInv manager bootId s) (event : GateEvent) :
    GateInv manager bootId (gateStep manager bootId s event) := by
  cases event with
  | register operation incidentId =>
    dsimp only [gateStep]
    split
    · refine ⟨h.toWindowInv.activities _, fun activity hactivity => ?_⟩
      rcases List.mem_append.mp hactivity with hactivity | hactivity
      · exact h.safe activity hactivity
      · obtain rfl := List.mem_singleton.mp hactivity
        intro hflag
        trivial
    · exact h
  | activity index event =>
    refine ⟨h.toWindowInv.activities _, fun activity hactivity => ?_⟩
    obtain ⟨j, hj⟩ := List.mem_iff_getElem?.mp hactivity
    rcases ListEdits.getElem?_modify_cases hj with ⟨-, before, hbefore, rfl⟩ | ⟨-, hbefore⟩
    · exact activitySafe_activityStep (h.safe before (List.mem_of_getElem? hbefore)) event
    · exact h.safe activity (List.mem_of_getElem? hbefore)
  | «open» action =>
    cases action with
    | quiesce request =>
      refine ⟨windowInv_called h.toWindowInv (.quiesce request) _, fun activity hactivity => ?_⟩
      obtain ⟨before, hbefore, rfl⟩ := List.mem_map.mp hactivity
      exact activitySafe_flaggedBy (h.safe before hbefore) rfl rfl
    | restore incidentId => exact ⟨windowInv_called h.toWindowInv (.restore incidentId) _, h.safe⟩
  | call index event =>
    dsimp only [gateStep]
    split
    · exact h
    · rename_i call hcall
      exact windowStep_gateInv h hcall event

private theorem gateInv_started (files : AList fun _ : String => QuiesceState) :
    GateInv manager bootId { files } := by
  refine ⟨⟨fun owner => rfl, fun i j a b ha => ?_, fun i a prog ha => ?_⟩, fun activity hactivity => ?_⟩
  · cases ha
  · cases ha
  · cases hactivity

/-- An activity a window overlapped, which has not reported a success. -/
def Overlapped (s : AgentNode) (index : Nat) : Prop :=
  ∃ activity, s.activities[index]? = some activity ∧ activity.overlappedBy.isSome ∧ activity.phase ≠ .done true

/-- A flag stays, and keeps the activity from reporting a success. -/
private theorem gateStep_overlapped {index : Nat} (h : Overlapped s index) (event : GateEvent) :
    Overlapped (gateStep manager bootId s event) index := by
  obtain ⟨activity, hactivity, hflag, hphase⟩ := h
  cases event with
  | register operation incidentId =>
    dsimp only [gateStep]
    split
    · refine ⟨activity, ?_, hflag, hphase⟩
      rw [List.getElem?_append_left (List.getElem?_eq_some_iff.mp hactivity).1]
      exact hactivity
    · exact ⟨activity, hactivity, hflag, hphase⟩
  | activity j event =>
    by_cases hj : j = index
    · subst hj
      refine ⟨activityStep bootId s activity event, ?_, ?_, ?_⟩
      · simp [gateStep, hactivity]
      · unfold activityStep
        split <;> exact hflag
      · have hjudged : ∀ error : Bool, ActivityPhase.done (!error && activity.overlappedBy.isNone) ≠ .done true := by
          intro error
          simp [Option.isSome_iff_ne_none.mp hflag]
        unfold activityStep
        split
        case h_4 => dsimp only; split <;> simp
        case h_9 => exact hjudged _
        all_goals simp_all
    · exact ⟨activity, by simp [gateStep, hj, hactivity], hflag, hphase⟩
  | «open» action =>
    cases action with
    | quiesce request =>
      have hsame : activity.flaggedBy request.incidentId = activity := by
        unfold GpuActivity.flaggedBy
        rw [if_neg]
        simp [Option.isSome_iff_ne_none.mp hflag]
      exact ⟨activity, by simp [gateStep, hactivity, hsame], hflag, hphase⟩
    | restore _ => exact ⟨activity, hactivity, hflag, hphase⟩
  | call j event =>
    have hactivities : (gateStep manager bootId s (.call j event)).activities = s.activities := by
      dsimp only [gateStep]
      split
      · rfl
      · unfold windowStep
        dsimp only
        split <;> first | rfl | (split <;> rfl)
    exact ⟨activity, by rw [hactivities]; exact hactivity, hflag, hphase⟩

/-- In whatever order the sections of the gate and the steps on the files come, an action that reports SUCCEEDED was
never in its handler while another incident's QUIESCE was in progress or its window was on the node. -/
theorem gpu_work_excludes_foreign_windows (files : AList fun _ : String => QuiesceState)
    {before after : List GateEvent} {index : Nat} {running final : GpuActivity}
    (hrunning : (Run.exec (gateStep manager bootId) { files } before).activities[index]? = some running)
    (hhandler : running.phase = .running)
    (hfinal : (Run.exec (gateStep manager bootId) { files } (before ++ after)).activities[index]? = some final)
    (hsucceeded : final.phase = .done true) :
    ¬ForeignWindow bootId (Run.exec (gateStep manager bootId) { files } before) running.incidentId := by
  have hinv : GateInv manager bootId (Run.exec (gateStep manager bootId) { files } before) :=
    Run.invariant_exec (I := GateInv manager bootId) (P := fun _ _ => True)
      (fun _ event h _ => gateStep_gateInv h event) (gateInv_started files) (Run.along_true _ _)
  intro hforeign
  have hflag : running.overlappedBy.isSome := by
    rw [Option.isSome_iff_ne_none]
    intro hnone
    have hsafe := hinv.safe running (List.mem_of_getElem? hrunning) hnone
    rw [hhandler] at hsafe
    rcases hforeign with ⟨call, hcall, hopens, hother⟩ | ⟨path, hpath⟩
    · exact hother (hsafe.1 _ (hinv.toWindowInv.mem_opening hcall hopens))
    · rw [hsafe.2 path] at hpath
      cases hpath
  have hoverlapped : Overlapped (Run.exec (gateStep manager bootId) { files } before) index :=
    ⟨running, hrunning, hflag, by rw [hhandler]; simp⟩
  have hend : Overlapped (Run.exec (gateStep manager bootId) { files } (before ++ after)) index := by
    rw [Run.exec_append]
    exact Run.invariant_exec (I := fun s => Overlapped s index) (P := fun _ _ => True)
      (fun _ event h _ => gateStep_overlapped h event) hoverlapped (Run.along_true _ _)
  obtain ⟨activity, hactivity, -, hphase⟩ := hend
  obtain rfl := Option.some.inj (hactivity.symm.trans hfinal)
  exact hphase hsucceeded

private def gatedManager : QuiesceManager where
  services := ["kubelet"]
  key := fun incidentId => incidentId

-- a window that another incident left before the last boot
private def leftWindow : QuiesceState where
  incidentId := "inc-2"
  workflowRequestId := "wf-2"
  phase := .quiescing
  activeServices := ["kubelet"]
  inactiveServices := []
  containerTargets := []
  targetDevicePaths := []
  timerUnit := "gpu-fault-quiesce-inc-2"
  bootId := some "boot-1"
  resetIssued := none

private def admitted : List GateEvent :=
  [.register .runDcgmDiagnostic "inc-1", .activity 0 .readOpening, .open (.restore "inc-2"), .activity 0 .listFiles,
    .activity 0 (.readFile false), .call 0 .lock, .activity 0 .start]

private def diagnostic (phase : ActivityPhase) : GpuActivity where
  operation := .runDcgmDiagnostic
  incidentId := "inc-1"
  phase := phase

theorem diagnostic_beside_left_window :
    ¬ForeignWindow "boot-2"
      (Run.exec (gateStep gatedManager "boot-2")
        { files := AList.singleton "quiesce-inc-2.json" leftWindow } admitted)
      "inc-1" := by
  have hrunning : (Run.exec (gateStep gatedManager "boot-2")
      { files := AList.singleton "quiesce-inc-2.json" leftWindow } admitted).activities[0]? =
      some (diagnostic .running) := rfl
  have hsucceeded : (Run.exec (gateStep gatedManager "boot-2")
      { files := AList.singleton "quiesce-inc-2.json" leftWindow }
      (admitted ++ [.activity 0 (.finish false), .activity 0 .judge])).activities[0]? =
      some (diagnostic (.done true)) := rfl
  exact gpu_work_excludes_foreign_windows _ hrunning rfl hsucceeded rfl

end Runs

end GpuFaultRecovery
