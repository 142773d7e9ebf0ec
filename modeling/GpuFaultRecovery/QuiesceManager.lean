import Mathlib.Data.List.Dedup
import GpuFaultRecovery.CommandProgram

/-!
# The GPU service quiesce of one incident

`GpuServiceQuiesceManager` stops the GPU services of a node for one incident, under a state file that names them and a
systemd timer that restores them when nobody else does. Each method is a program of commands: reads and writes of the
state file, `systemctl`, `systemd-run`, `ctr`, `pkill`, `nvidia-smi`. Any of them may raise, with or without effect.
The methods hold the incident's file lock from the first read on, so that a node runs them one after the other.
-/

namespace GpuFaultRecovery

/-! ### The state file -/

inductive QuiescePhase
  | arming | quiescing | quiesceFailed | quiesced | restoring | restoreFailed
  deriving DecidableEq, Repr

def QuiescePhase.text : QuiescePhase → String
  | .arming => "ARMING"
  | .quiescing => "QUIESCING"
  | .quiesceFailed => "QUIESCE_FAILED"
  | .quiesced => "QUIESCED"
  | .restoring => "RESTORING"
  | .restoreFailed => "RESTORE_FAILED"

/-- `reset_issued`: the claim of the one reset that a quiesce window buys. -/
structure ResetClaim where
  commandId : Option String
  attempt : Option Nat
  issuedAt : String
  scope : Option String := none
  deriving DecidableEq, Repr

structure ContainerTarget where
  selector : String
  containerId : String
  deriving DecidableEq, Repr

/-- The content of `quiesce-*.json`. -/
structure QuiesceState where
  incidentId : String
  workflowRequestId : String
  phase : QuiescePhase
  activeServices : List String
  inactiveServices : List String
  keptServices : List String := []
  containerTargets : List ContainerTarget
  targetDevicePaths : List String
  timerUnit : String
  bootId : Option String
  resetIssued : Option ResetClaim
  deriving DecidableEq, Repr

/-- `SYSTEMD_NAME_PATTERN`. -/
def systemdName (text : String) : Bool :=
  let chars := text.toList
  1 ≤ chars.length && chars.length ≤ 128 &&
    chars.all fun c => c.isAlphanum || "_.@:-".toList.contains c

/-- A lower-case SHA-256 in hexadecimal. -/
def containerIdValid (text : String) : Bool :=
  let chars := text.toList
  chars.length = 64 && chars.all fun c => c.isDigit || "abcdef".toList.contains c

/-- `namespace/name`, both of them systemd names. -/
def selectorValid (text : String) : Bool :=
  let chars := text.toList
  match chars.dropWhile (· != '/') with
  | _ :: name =>
    systemdName (String.ofList (chars.takeWhile (· != '/'))) && !name.contains '/' && systemdName (String.ofList name)
  | [] => false

/-- The check that `_restore_locked` makes of the file before it acts on it. -/
def QuiesceState.restorable (state : QuiesceState) : Bool :=
  state.activeServices.all systemdName && systemdName state.timerUnit &&
    state.containerTargets.all fun target => selectorValid target.selector && containerIdValid target.containerId

/-! ### Commands -/

/-- What the manager does to the node, one step each. -/
inductive QuiesceCommand
  | readState
  | writeState (state : QuiesceState)
  | unlinkState
  | isActive (unit : String)
  | start (service : String)
  | stop (service : String)
  | systemdRun (timerUnit : String)
  | stopTimer (timerUnit : String)
  | resetFailed (timerUnit : String)
  | requirePhysicalOwnership
  | readBootId
  | runningContainerIds (selector : String)
  | killTask (containerId signal : String)
  | waitTaskStopped (containerId : String)
  | waitContainersRestored (targets : List ContainerTarget)
  | pkill (process : String)
  | sweepDeviceHolders
  | persistenceDaemon
  | persistenceHolders
  | nvidiaSmi (argv : List String)
  | releaseBudgetLeft
  deriving DecidableEq, Repr

/-- What a command answers when it does not raise. -/
abbrev QuiesceCommand.Answer : QuiesceCommand → Type
  | .readState => Option QuiesceState
  | .isActive _ => Bool
  | .readBootId => String
  | .runningContainerIds _ => List String
  | .waitTaskStopped _ => Bool
  | .waitContainersRestored _ => List String
  | .persistenceDaemon => Bool
  | .persistenceHolders => Bool
  | .nvidiaSmi _ => Bool
  | .releaseBudgetLeft => Bool
  | _ => Unit

/-- A program of the manager; what it raises is the text of the exception. -/
abbrev QuiesceProg := Prog QuiesceCommand QuiesceCommand.Answer String

/-- `_run`, and the reads and writes of the file beside it. -/
abbrev runCommand (command : QuiesceCommand) : QuiesceProg command.Answer := Prog.call command

/-- The configuration of a manager, with the digest of `_key`. -/
structure QuiesceManager where
  services : List String
  protectedServices : List String := []
  processes : List String := []
  containers : List String := []
  key : String → String

def QuiesceManager.timerUnit (manager : QuiesceManager) (incidentId : String) : String :=
  "gpu-fault-quiesce-" ++ manager.key incidentId

def persistenceDaemonUnit : String := "nvidia-persistenced"

def persistenceRestoreUnit : String := "gpu-fault-gpu-persistence"

def fabricManagerUnit : String := "nvidia-fabricmanager"

/-- `RECORD_LIMIT`. -/
def persistenceRecordLimit : Nat := 16

/-! ### Persistence release -/

/-- `PCI_BUS_ID_PATTERN`. -/
def pciBusIdValid (text : String) : Bool :=
  let hex (c : Char) : Bool := c.isDigit || "abcdefABCDEF".toList.contains c
  let chars := text.toList
  let domain := chars.takeWhile hex
  4 ≤ domain.length && domain.length ≤ 8 &&
    match chars.dropWhile hex with
    | [':', b₁, b₂, ':', d₁, d₂, '.', f] => hex b₁ && hex b₂ && hex d₁ && hex d₂ && "01234567".toList.contains f
    | _ => false

/-- `_call`: whether one bounded `nvidia-smi` completes without an error. -/
def callNvidiaSmi (argv : List String) : QuiesceProg Bool :=
  (runCommand (.nvidiaSmi argv)).tryExcept fun _ => pure false

/-- Whether the release goes on after a call: a call that failed ends it once `NvidiaSmiBudget` has no time left. -/
def releaseGoesOn : Bool → QuiesceProg Bool
  | true => pure true
  | false => (runCommand .releaseBudgetLeft).tryExcept fun _ => pure false

/-- `_snapshot`: the persistence modes go to the record only. -/
def snapshotPersistence : QuiesceProg Unit := do
  let _ ← callNvidiaSmi ["nvidia-smi", "--query-gpu=pci.bus_id,persistence_mode", "--format=csv,noheader"]
  pure ()

/-- `persistence_daemon`: whether the daemon runs, as `/proc` shows it. -/
def persistenceDaemonRunning : QuiesceProg Bool :=
  (runCommand .persistenceDaemon).tryExcept fun _ => pure false

def releaseCommands (activeServices : List String) (pciBusIds : Option (List String)) (wholeNode : Bool) :
    List (List String) :=
  if persistenceRestoreUnit ∉ activeServices then []
  else if wholeNode then [["nvidia-smi", "-pm", "0"]]
  else
    match pciBusIds with
    | some (item :: items) =>
      if (item :: items).all pciBusIdValid then
        (item :: items).map fun bus => ["nvidia-smi", "-i", bus, "-pm", "0"]
      else []
    | _ => []

def releaseEach : List (List String) → QuiesceProg (List Bool)
  | [] => pure []
  | argv :: rest => do
    let released ← callNvidiaSmi argv
    let goesOn ← releaseGoesOn released
    if goesOn then do
      let later ← releaseEach rest
      pure (released :: later)
    else pure [released]

/-- `_release`: whether every target was released and the daemon lets go of them. -/
def releasePersistence (commands : List (List String)) : QuiesceProg Bool := do
  let released ← releaseEach (commands.take persistenceRecordLimit)
  if released.all id && released.length = commands.length then do
    let holding ← runCommand .persistenceHolders
    pure !holding
  else pure false

/-- The release right after its restore unit stops, where the window has one. -/
def releaseTargets (commands : List (List String)) : QuiesceProg Bool :=
  if commands.isEmpty then pure false
  else do
    runCommand (.stop persistenceRestoreUnit)
    releasePersistence commands

/-- `TargetPersistence.stop_services`: whether the daemon's unit is kept running. -/
def stopServices (activeServices : List String) (pciBusIds : Option (List String)) (wholeNode : Bool) :
    QuiesceProg Bool := do
  let daemon ← persistenceDaemonRunning
  snapshotPersistence
  let commands := releaseCommands activeServices pciBusIds wholeNode
  let complete ← releaseTargets commands
  let kept := complete && daemon && activeServices.contains persistenceDaemonUnit
  let stopped :=
    (if commands.isEmpty then [] else [persistenceRestoreUnit]) ++ (if kept then [persistenceDaemonUnit] else [])
  Prog.forEach (fun service => if service ∈ stopped then
    pure () else runCommand (.stop service)) activeServices.reverse
  pure kept

/-! ### Restore -/

/-- Start the services, then find each of them active. -/
def startServices (services : List String) : QuiesceProg Unit := do
  Prog.forEach (fun service => runCommand (.start service)) services
  let active ← Prog.collect (fun service => runCommand (.isActive service)) services
  let inactive := ((services.zip active).filter fun pair => !pair.2).map Prod.fst
  if inactive.isEmpty then pure ()
  else .raise ("restored services are not active: " ++ ", ".intercalate inactive)

/-- `_wait_containers_restored`, where the caller waits at all. -/
def waitContainersRestored (waitForContainers : Bool) (targets : List ContainerTarget) : QuiesceProg (List String) :=
  if !waitForContainers || targets.isEmpty then pure [] else runCommand (.waitContainersRestored targets)

structure RestoreResult where
  alreadyRestored : Bool
  restoredServices : List String := []
  pendingContainers : List String := []
  deriving DecidableEq, Repr

/-- The steps of a restore once the services run again: the timer goes, then the file. -/
def closeWindow (state : QuiesceState) (waitForContainers : Bool) : QuiesceProg RestoreResult := do
  let pending ← waitContainersRestored waitForContainers state.containerTargets
  runCommand (.stopTimer (state.timerUnit ++ ".timer"))
  runCommand (.resetFailed (state.timerUnit ++ ".service"))
  runCommand .unlinkState
  pure { alreadyRestored := false, restoredServices := state.activeServices, pendingContainers := pending }

/-- `_restore_locked`. -/
def restoreLocked (waitForContainers : Bool) : QuiesceProg RestoreResult := do
  let state ← runCommand .readState
  match state with
  | none => pure { alreadyRestored := true }
  | some state =>
    if state.restorable then do
      let state := { state with phase := .restoring, resetIssued := none }
      runCommand (.writeState state)
      (startServices state.activeServices).tryExcept fun failure => do
        runCommand (.writeState { state with phase := .restoreFailed })
        .raise failure
      closeWindow state waitForContainers
    else .raise "invalid quiesce restore state"

/-- `restore`: the modes read after the settle go to the record only. -/
def restore : QuiesceProg RestoreResult := do
  let result ← restoreLocked true
  if result.alreadyRestored then pure result
  else do
    snapshotPersistence
    pure result

/-! ### Quiesce -/

structure QuiesceRequest where
  incidentId : String
  workflowRequestId : String
  targetDevicePaths : Option (List String) := none
  targetPciBusIds : Option (List String) := none
  wholeNode : Bool := false
  keepFabricManager : Bool := false
  deriving DecidableEq, Repr

/-- `sorted(target_device_paths)` of a set, empty when there is none. -/
def QuiesceRequest.normalizedTargetPaths (request : QuiesceRequest) : List String :=
  (request.targetDevicePaths.getD []).dedup.mergeSort fun a b => decide (a ≤ b)

structure QuiesceReceipt where
  alreadyQuiesced : Bool
  activeServices : List String
  inactiveServices : List String := []
  keptServices : List String
  timerUnit : String
  deriving DecidableEq, Repr

/-- The restore of a failed window inside the next quiesce. -/
def restoreInline (phase : QuiescePhase) : QuiesceProg RestoreResult :=
  (restoreLocked true).tryExcept fun failure =>
    .raise ("the previous " ++ phase.text ++ " GPU service quiesce could not be restored, so a fresh quiesce is " ++
      "refused: " ++ failure)

/-- `_restore_failed_window`: a healthy window as it is, `none` after the restore of a failed one. -/
def restoreFailedWindow (existing : QuiesceState) : QuiesceProg (Option QuiesceState) :=
  match existing.phase with
  | .quiesced => pure (some existing)
  | .quiesceFailed | .restoreFailed => do
    let _ ← restoreInline existing.phase
    pure none
  -- the writer died mid-step: the timer and the boot reconcile decide
  | .arming | .quiescing | .restoring =>
    .raise "GPU service quiesce is incomplete; fail-safe restore remains armed"

/-- `_service_inventory`: active, inactive and kept among the configured, unprotected services. -/
def serviceInventory (manager : QuiesceManager) (keepFabricManager : Bool) :
    QuiesceProg (List String × List String × List String) := do
  let services := manager.services.filter fun service => !manager.protectedServices.contains service
  let running ← Prog.collect (fun service => runCommand (.isActive service)) services
  let pairs := services.zip running
  let isKept (service : String) : Bool := keepFabricManager && service == fabricManagerUnit
  let active := (pairs.filter fun pair => pair.2 && !isKept pair.1).map Prod.fst
  let inactive := (pairs.filter fun pair => !pair.2).map Prod.fst
  let kept := (pairs.filter fun pair => pair.2 && isKept pair.1).map Prod.fst
  pure (active, inactive, kept)

/-- `_resolve_container_targets`. -/
def resolveContainerTargets (manager : QuiesceManager) : QuiesceProg (List ContainerTarget) := do
  let targets ← Prog.collect (fun selector => do
    let ids ← runCommand (.runningContainerIds selector)
    pure (ids.map fun containerId => ({ selector, containerId } : ContainerTarget))) manager.containers
  pure targets.flatten

/-- `read_boot_id`: the empty text where it cannot be read. -/
def readBootId : QuiesceProg String :=
  (runCommand .readBootId).tryExcept fun _ => pure ""

/-- `_stop_containers`. -/
def stopContainers : List ContainerTarget → QuiesceProg Unit :=
  Prog.forEach fun target => do
    runCommand (.killTask target.containerId "SIGTERM")
    let stopped ← runCommand (.waitTaskStopped target.containerId)
    if stopped then pure ()
    else do
      runCommand (.killTask target.containerId "SIGKILL")
      let stopped ← runCommand (.waitTaskStopped target.containerId)
      if stopped then pure () else .raise ("container task " ++ target.containerId ++ " did not stop")

/-- The guarded part of a quiesce: services, containers, processes, then the holders that are left. -/
def stopGpuClients (manager : QuiesceManager) (request : QuiesceRequest) (state : QuiesceState) :
    QuiesceProg Bool := do
  let kept ← stopServices state.activeServices request.targetPciBusIds request.wholeNode
  stopContainers state.containerTargets
  Prog.forEach (fun process => runCommand (.pkill process)) manager.processes
  runCommand .sweepDeviceHolders
  snapshotPersistence
  let _ ← persistenceDaemonRunning
  pure kept

/-- `_arm_quiesce_failsafe`. -/
def armQuiesceFailsafe (timerUnit : String) : QuiesceProg Unit := do
  runCommand .requirePhysicalOwnership
  runCommand (.systemdRun timerUnit)

/-- Stop what the window names once the file is written as `ARMING`: the timer first, the services after it. -/
def fillWindow (manager : QuiesceManager) (request : QuiesceRequest) (state : QuiesceState) :
    QuiesceProg QuiesceReceipt := do
  runCommand (.writeState state)
  (armQuiesceFailsafe state.timerUnit).tryExcept fun failure => do
    runCommand .unlinkState
    .raise failure
  let state := { state with phase := .quiescing }
  runCommand (.writeState state)
  let keptDaemon ← (stopGpuClients manager request state).tryExcept fun failure => do
    runCommand (.writeState { state with phase := .quiesceFailed })
    .raise failure
  let kept := state.keptServices ++ if keptDaemon then [persistenceDaemonUnit] else []
  runCommand (.writeState { state with phase := .quiesced, keptServices := kept })
  pure { alreadyQuiesced := false, activeServices := state.activeServices, inactiveServices := state.inactiveServices,
         keptServices := kept, timerUnit := state.timerUnit ++ ".timer" }

def openWindow (manager : QuiesceManager) (request : QuiesceRequest) : QuiesceProg QuiesceReceipt := do
  let (active, inactive, kept) ← serviceInventory manager request.keepFabricManager
  let targets ← resolveContainerTargets manager
  let bootId ← readBootId
  fillWindow manager request
    { incidentId := request.incidentId
      workflowRequestId := request.workflowRequestId
      phase := .arming
      activeServices := active
      inactiveServices := inactive
      keptServices := kept
      containerTargets := targets
      targetDevicePaths := request.normalizedTargetPaths
      timerUnit := manager.timerUnit request.incidentId
      bootId := some bootId
      resetIssued := none }

/-- The window that a quiesce finds: refused, restored when it failed, or as it is. -/
def existingWindow (request : QuiesceRequest) : QuiesceProg (Option QuiesceState) := do
  let existing ← runCommand .readState
  match existing with
  | none => pure none
  | some state =>
    if state.incidentId ≠ request.incidentId ∨ state.workflowRequestId ≠ request.workflowRequestId then
      .raise "quiesce state belongs to another workflow"
    else restoreFailedWindow state

/-- `quiesce`. -/
def quiesce (manager : QuiesceManager) (request : QuiesceRequest) : QuiesceProg QuiesceReceipt := do
  let existing ← existingWindow request
  match existing with
  | some state =>
    if state.targetDevicePaths ≠ request.normalizedTargetPaths then
      .raise "quiesce target GPU scope changed after quiesce"
    else
      pure { alreadyQuiesced := true, activeServices := state.activeServices, keptServices := state.keptServices,
             timerUnit := manager.timerUnit request.incidentId ++ ".timer" }
  | none => openWindow manager request

/-! ### The reset claim -/

/-- `_reset_claim_refusal`. -/
def resetClaimRefusal (issued : ResetClaim) (commandId : Option String) : String :=
  let claimant :=
    if issued.commandId.isSome && issued.commandId == commandId then
      "an earlier attempt of this command" ++
        match issued.attempt with
        | some attempt => " (see attempt " ++ toString attempt ++ ")"
        | none => ""
    else
      match issued.commandId with
      | some owner => if owner = "" then "an earlier command" else owner
      | none => "an earlier command"
  "the single GPU reset this quiesce window allows was already claimed by " ++ claimant ++ " at " ++
    issued.issuedAt ++
    "; read that command's result to learn whether the reset ran, and restore the GPU services and quiesce again " ++
    "before any further reset"

/-- `assert_quiesced`. -/
def assertQuiesced (commandId : Option String) (forReset : Bool) (attempt : Option Nat) (now : String) :
    QuiesceProg Unit := do
  let state ← runCommand .readState
  match state with
  | none => .raise "GPU reset requires an active service quiesce state"
  | some state =>
    if state.phase ≠ .quiesced then .raise "GPU reset requires an active service quiesce state"
    else if forReset then
      match state.resetIssued with
      | some issued => .raise (resetClaimRefusal issued commandId)
      | none => runCommand (.writeState { state with resetIssued := some { commandId, attempt, issuedAt := now } })
    else pure ()

/-- `record_reset_scope`: best effort, a failure is only logged. -/
def recordResetScope (scope : String) : QuiesceProg Unit :=
  (do
    let state ← runCommand .readState
    match state with
    | none => pure ()
    | some state =>
      match state.resetIssued with
      | none => pure ()
      | some issued =>
        runCommand (.writeState { state with resetIssued := some { issued with scope := some scope } })).tryExcept
    fun _ => pure ()

def timerStillArmed (state : QuiesceState) : QuiesceProg Bool :=
  if state.bootId.isNone && state.timerUnit ≠ "" then runCommand (.isActive (state.timerUnit ++ ".timer"))
  else pure false

/-- `reconcile_after_boot` for the incident's file: a file of another boot is restored, failures are only reported. -/
def reconcileAfterBoot : QuiesceProg Unit := do
  let boot ← readBootId
  let found ← (runCommand .readState).tryExcept fun _ => pure none
  match found with
  | none => pure ()
  | some state =>
    if state.bootId = some boot then pure ()
    else do
      let armed ← timerStillArmed state
      if armed then pure ()
      else
        (do
          let _ ← restoreLocked false
          pure ()).tryExcept fun _ => pure ()

/-! ### The node -/

/-- How a command ends: it answers, or it raises, in which case it may still have taken effect. -/
inductive Outcome
  | answers (yes : Bool) (lines : List String)
  | raises (effect : Bool) (text : String)
  deriving DecidableEq, Repr

def Outcome.took : Outcome → Bool
  | .answers _ _ => true
  | .raises effect _ => effect

structure QuiesceEvent where
  command : QuiesceCommand
  outcome : Outcome
  deriving DecidableEq, Repr

/-- The node as one incident's quiesce sees it: the state file, whether the fail-safe timer was armed and not stopped
since, the services stopped and not started since, the boot, and the commands so far. -/
structure QuiesceNode where
  file : Option QuiesceState
  timer : Bool
  stopped : List String
  bootId : String
  log : List QuiesceEvent
  deriving DecidableEq, Repr

/-- The node as a boot finds it: no service stopped by a quiesce yet, whatever file an earlier boot left. -/
def QuiesceNode.booted (file : Option QuiesceState) (timer : Bool) (bootId : String) : QuiesceNode :=
  { file, timer, stopped := [], bootId, log := [] }

/-- The effect of a command. A stop of the timer counts whatever it answers. -/
def QuiesceCommand.effect (node : QuiesceNode) : QuiesceCommand → QuiesceNode
  | .writeState state => { node with file := some state }
  | .unlinkState => { node with file := none }
  | .start service => { node with stopped := node.stopped.filter (· != service) }
  | .stop service => { node with stopped := service :: node.stopped }
  | .systemdRun _ => { node with timer := true }
  | .stopTimer _ => { node with timer := false }
  | _ => node

/-- What a command answers: the file as it is, anything from the outside. -/
def QuiesceCommand.answer (node : QuiesceNode) (yes : Bool) (lines : List String) :
    (command : QuiesceCommand) → command.Answer
  | .readState => node.file
  | .isActive _ => yes
  | .readBootId => node.bootId
  | .runningContainerIds _ => lines
  | .waitTaskStopped _ => yes
  | .waitContainersRestored _ => lines
  | .persistenceDaemon => yes
  | .persistenceHolders => yes
  | .nvidiaSmi _ => yes
  | .releaseBudgetLeft => yes
  | .writeState _ => ()
  | .unlinkState => ()
  | .start _ => ()
  | .stop _ => ()
  | .systemdRun _ => ()
  | .stopTimer _ => ()
  | .resetFailed _ => ()
  | .requirePhysicalOwnership => ()
  | .killTask _ _ => ()
  | .pkill _ => ()
  | .sweepDeviceHolders => ()

def performQuiesce (node : QuiesceNode) (command : QuiesceCommand) (outcome : Outcome) :
    QuiesceNode × Except String command.Answer :=
  ({ (if outcome.took then command.effect node else node) with log := node.log ++ [⟨command, outcome⟩] },
    match outcome with
    | .answers yes lines => .ok (command.answer node yes lines)
    | .raises _ text => .error text)

/-- The calls on an incident's window. `restoreStateFile` is the entry of the fail-safe timer, and with no wait for
containers the locked part of the boot reconcile. -/
inductive QuiesceCall
  | quiesce (manager : QuiesceManager) (request : QuiesceRequest)
  | assertQuiesced (commandId : Option String) (forReset : Bool) (attempt : Option Nat) (now : String)
  | recordResetScope (scope : String)
  | restore
  | restoreStateFile (waitForContainers : Bool)
  | reconcileAfterBoot

def QuiesceCall.prog : QuiesceCall → QuiesceProg Unit
  | .quiesce manager request => do
    let _ ← GpuFaultRecovery.quiesce manager request
    pure ()
  | .assertQuiesced commandId forReset attempt now => GpuFaultRecovery.assertQuiesced commandId forReset attempt now
  | .recordResetScope scope => GpuFaultRecovery.recordResetScope scope
  | .restore => do
    let _ ← GpuFaultRecovery.restore
    pure ()
  | .restoreStateFile waitForContainers => do
    let _ ← restoreLocked waitForContainers
    pure ()
  | .reconcileAfterBoot => GpuFaultRecovery.reconcileAfterBoot

/-- The calls of one boot: each runs to its end or to the crash of its process. -/
def QuiesceNode.call (node : QuiesceNode) (c : QuiesceCall × List Outcome) : QuiesceNode :=
  (c.1.prog.run performQuiesce node c.2).1

/-! ### What the parts of a quiesce can touch -/

/-- The commands that leave the file and the timer alone and stop no service but those of `services`. -/
def QuiesceCommand.StopsAmong (services : List String) : QuiesceCommand → Prop
  | .stop service => service ∈ services
  | .writeState _ | .unlinkState | .start _ | .systemdRun _ | .stopTimer _ => False
  | _ => True

/-- Such a command changes nothing but the services that are down, and only by one of `services`. -/
theorem performQuiesce_of_stopsAmong {services : List String} {command : QuiesceCommand}
    (h : command.StopsAmong services) (node : QuiesceNode) (outcome : Outcome) :
    (performQuiesce node command outcome).1.file = node.file ∧
      (performQuiesce node command outcome).1.timer = node.timer ∧
      ((performQuiesce node command outcome).1.stopped = node.stopped ∨
        ∃ service ∈ services, (performQuiesce node command outcome).1.stopped = service :: node.stopped) := by
  simp only [performQuiesce]
  split
  · cases command with
    | stop service => exact ⟨rfl, rfl, .inr ⟨service, h, rfl⟩⟩
    | writeState _ => cases h
    | unlinkState => cases h
    | start _ => cases h
    | systemdRun _ => cases h
    | stopTimer _ => cases h
    | _ => exact ⟨rfl, rfl, .inl rfl⟩
  · exact ⟨rfl, rfl, .inl rfl⟩

private theorem only_stop {services : List String} {service : String} (h : service ∈ services) :
    Prog.Only (QuiesceCommand.StopsAmong services) (runCommand (.stop service)) :=
  Prog.only_call h

private theorem only_callNvidiaSmi {services : List String} (argv : List String) :
    Prog.Only (QuiesceCommand.StopsAmong services) (callNvidiaSmi argv) :=
  (Prog.only_call trivial).tryExcept fun _ => Prog.only_pure

theorem only_snapshotPersistence {services : List String} :
    Prog.Only (QuiesceCommand.StopsAmong services) snapshotPersistence :=
  (only_callNvidiaSmi _).bind fun _ => Prog.only_pure

private theorem only_persistenceDaemonRunning {services : List String} :
    Prog.Only (QuiesceCommand.StopsAmong services) persistenceDaemonRunning :=
  (Prog.only_call trivial).tryExcept fun _ => Prog.only_pure

private theorem only_releaseGoesOn {services : List String} (released : Bool) :
    Prog.Only (QuiesceCommand.StopsAmong services) (releaseGoesOn released) := by
  cases released with
  | true => exact Prog.only_pure
  | false => exact (Prog.only_call trivial).tryExcept fun _ => Prog.only_pure

private theorem only_releaseEach {services : List String} (commands : List (List String)) :
    Prog.Only (QuiesceCommand.StopsAmong services) (releaseEach commands) := by
  induction commands with
  | nil => trivial
  | cons argv rest ih =>
    refine (only_callNvidiaSmi argv).bind fun released => (only_releaseGoesOn released).bind fun goesOn => ?_
    exact Prog.only_ite (ih.bind fun _ => Prog.only_pure) Prog.only_pure

private theorem only_releasePersistence {services : List String} (commands : List (List String)) :
    Prog.Only (QuiesceCommand.StopsAmong services) (releasePersistence commands) := by
  refine (only_releaseEach _).bind fun released => Prog.only_ite ?_ Prog.only_pure
  exact (Prog.only_call trivial).bind fun _ => Prog.only_pure

private theorem persistenceRestoreUnit_mem {activeServices : List String} {pciBusIds : Option (List String)}
    {wholeNode : Bool} (h : (releaseCommands activeServices pciBusIds wholeNode).isEmpty = false) :
    persistenceRestoreUnit ∈ activeServices := by
  unfold releaseCommands at h
  by_contra hmem
  rw [if_pos hmem] at h
  cases h

private theorem only_releaseTargets {services : List String} {commands : List (List String)}
    (h : commands.isEmpty = false → persistenceRestoreUnit ∈ services) :
    Prog.Only (QuiesceCommand.StopsAmong services) (releaseTargets commands) := by
  unfold releaseTargets
  split
  · trivial
  · rename_i hne
    exact (only_stop (h (by simpa using hne))).bind fun _ => only_releasePersistence _

private theorem only_stopServices (activeServices : List String) (pciBusIds : Option (List String))
    (wholeNode : Bool) :
    Prog.Only (QuiesceCommand.StopsAmong activeServices) (stopServices activeServices pciBusIds wholeNode) := by
  refine only_persistenceDaemonRunning.bind fun daemon => only_snapshotPersistence.bind fun _ => ?_
  refine (only_releaseTargets persistenceRestoreUnit_mem).bind fun complete => ?_
  refine (Prog.only_forEach fun service hmem => ?_).bind fun _ => Prog.only_pure
  exact Prog.only_ite Prog.only_pure (only_stop (List.mem_reverse.mp hmem))

private theorem only_stopContainers {services : List String} (targets : List ContainerTarget) :
    Prog.Only (QuiesceCommand.StopsAmong services) (stopContainers targets) := by
  refine Prog.only_forEach fun target _ => ?_
  refine (Prog.only_call trivial).bind fun _ => (Prog.only_call trivial).bind fun stopped => ?_
  refine Prog.only_ite Prog.only_pure ?_
  refine (Prog.only_call trivial).bind fun _ => (Prog.only_call trivial).bind fun stopped => ?_
  exact Prog.only_ite Prog.only_pure trivial

theorem only_stopGpuClients (manager : QuiesceManager) (request : QuiesceRequest) (state : QuiesceState) :
    Prog.Only (QuiesceCommand.StopsAmong state.activeServices) (stopGpuClients manager request state) := by
  refine (only_stopServices _ _ _).bind fun kept => (only_stopContainers _).bind fun _ => ?_
  refine (Prog.only_forEach fun process _ => Prog.only_call trivial).bind fun _ => ?_
  refine (Prog.only_call trivial).bind fun _ => only_snapshotPersistence.bind fun _ => ?_
  exact only_persistenceDaemonRunning.bind fun _ => Prog.only_pure

theorem only_serviceInventory {services : List String} (manager : QuiesceManager) (keepFabricManager : Bool) :
    Prog.Only (QuiesceCommand.StopsAmong services) (serviceInventory manager keepFabricManager) := by
  refine Prog.Only.bind (Prog.only_collect fun service _ => ?_) fun _ => Prog.only_pure
  exact Prog.only_call trivial

theorem only_resolveContainerTargets {services : List String} (manager : QuiesceManager) :
    Prog.Only (QuiesceCommand.StopsAmong services) (resolveContainerTargets manager) :=
  (Prog.only_collect fun _ _ => (Prog.only_call trivial).bind fun _ => Prog.only_pure).bind fun _ => Prog.only_pure

theorem only_readBootId {services : List String} : Prog.Only (QuiesceCommand.StopsAmong services) readBootId :=
  (Prog.only_call trivial).tryExcept fun _ => Prog.only_pure

theorem only_waitContainersRestored {services : List String} (waitForContainers : Bool)
    (targets : List ContainerTarget) :
    Prog.Only (QuiesceCommand.StopsAmong services) (waitContainersRestored waitForContainers targets) := by
  unfold waitContainersRestored
  exact Prog.only_ite Prog.only_pure (Prog.only_call trivial)

end GpuFaultRecovery
