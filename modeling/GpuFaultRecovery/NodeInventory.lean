import Mathlib.Data.List.Sort
import GpuFaultRecovery.RemoteCommand

/-!
# The Kubernetes node inventory

Each cluster's executors report all of the cluster's node names; the control plane keeps the latest names with the
absences of an unbroken chain of reports, and reads off that record whether a node has been gone for long enough.
Instants and durations are in microseconds.
-/

namespace GpuFaultRecovery

/-! ### The record -/

structure KubernetesNodeInventoryReport where
  clusterId : String
  executorId : String
  observedAt : Int
  resourceVersion : Option String := none
  nodeNames : List String := []
  spareNodeNames : List String := []
deriving DecidableEq, Repr

structure AbsentNode where
  since : Int
  wasSpare : Bool := false
deriving DecidableEq, Repr

structure KubernetesNodeInventory where
  clusterId : String
  reporter : String
  observedAt : Int
  receivedAt : Int
  resourceVersion : Option String := none
  nodeNames : List String := []
  spareNodeNames : List String := []
  chainStartedAt : Int
  reportsInChain : Nat := 1
  retainedSince : Int
  absent : List (String × AbsentNode) := []
deriving DecidableEq, Repr

structure KubernetesNodeInventoryReceipt where
  clusterId : String
  recorded : Bool
  observedAt : Int
  receivedAt : Int
  nodeCount : Nat
  absentCount : Nat
  chainStartedAt : Int
  reportsInChain : Nat
deriving DecidableEq, Repr

def nodeInventoryFreshness : Int := 300000000

def nodeInventoryMaxGap : Int := 300000000

def nodeInventoryAbsenceRetention : Int := 86400000000

def nodeInventoryMaxClockSkew : Int := 120000000

def unknownProviderAbsence : Int := 86400000000

/-- `{timedelta.total_seconds():.0f}s`. -/
def wholeSeconds (duration : Int) : String := toString (roundHalfEven duration 1000000) ++ "s"

/-! ### Taking a report -/

def nextAbsent (previous : KubernetesNodeInventory) (report : KubernetesNodeInventoryReport) (receivedAt : Int) :
    List (String × AbsentNode) :=
  let carried := previous.absent.filter fun entry => !report.nodeNames.contains entry.1
  let fresh := previous.nodeNames.filter fun name =>
    !report.nodeNames.contains name && !carried.any fun entry => entry.1 == name
  carried ++ fresh.map fun name => (name, ⟨receivedAt, previous.spareNodeNames.contains name⟩)

/-- The record after a report that starts a chain. -/
def freshInventory (report : KubernetesNodeInventoryReport) (receivedAt : Int) : KubernetesNodeInventory where
  clusterId := report.clusterId
  reporter := report.executorId
  observedAt := report.observedAt
  receivedAt := receivedAt
  resourceVersion := report.resourceVersion
  nodeNames := report.nodeNames
  spareNodeNames := report.spareNodeNames
  chainStartedAt := receivedAt
  retainedSince := receivedAt

/-- The record after a report that continues a chain. -/
def nextInventory (previous : KubernetesNodeInventory) (report : KubernetesNodeInventoryReport) (receivedAt : Int) :
    KubernetesNodeInventory :=
  let absent := nextAbsent previous report receivedAt
  let cutoff := receivedAt - nodeInventoryAbsenceRetention
  let prune := absent.any fun entry => entry.2.since < cutoff
  { freshInventory report receivedAt with
    chainStartedAt := previous.chainStartedAt
    reportsInChain := previous.reportsInChain + 1
    retainedSince := if prune then max previous.retainedSince cutoff else previous.retainedSince
    absent := (if prune then absent.filter fun entry => cutoff ≤ entry.2.since else absent).insertionSort
      fun one other => one.1 ≤ other.1 }

def mergeNodeInventory (previous : Option KubernetesNodeInventory) (report : KubernetesNodeInventoryReport)
    (receivedAt : Int) : KubernetesNodeInventory :=
  match previous with
  | none => freshInventory report receivedAt
  | some previous =>
    if report.observedAt ≤ previous.observedAt then previous
    else if nodeInventoryMaxGap < receivedAt - previous.receivedAt then freshInventory report receivedAt
    else nextInventory previous report receivedAt

/-- Why the control plane must not record a report. -/
def reportRefusal (isoformat : Int → String) (report : KubernetesNodeInventoryReport) (receivedAt : Int) :
    Option String :=
  let skew := max (report.observedAt - receivedAt) (receivedAt - report.observedAt)
  if nodeInventoryMaxClockSkew < skew then
    some ("report observed_at " ++ isoformat report.observedAt ++ " is " ++ wholeSeconds skew ++
      " from the control plane's clock (limit " ++ wholeSeconds nodeInventoryMaxClockSkew ++ ")")
  else none

def KubernetesNodeInventoryReceipt.of (inventory : KubernetesNodeInventory) (recorded : Bool) :
    KubernetesNodeInventoryReceipt where
  clusterId := inventory.clusterId
  recorded := recorded
  observedAt := inventory.observedAt
  receivedAt := inventory.receivedAt
  nodeCount := inventory.nodeNames.length
  absentCount := inventory.absent.length
  chainStartedAt := inventory.chainStartedAt
  reportsInChain := inventory.reportsInChain

/-- One executor report into the cluster's record, or the reason to refuse it. -/
def recordInventoryReport (isoformat : Int → String) (inventories : Table KubernetesNodeInventory.clusterId)
    (report : KubernetesNodeInventoryReport) (receivedAt : Int) :
    Except String (Table KubernetesNodeInventory.clusterId × KubernetesNodeInventoryReceipt) :=
  match reportRefusal isoformat report receivedAt with
  | some refusal => .error refusal
  | none =>
    let inventory := mergeNodeInventory (inventories.get? report.clusterId) report receivedAt
    .ok (inventories.put inventory, .of inventory
      (inventory.observedAt == report.observedAt && inventory.reporter == report.executorId))

/-! ### What the record proves -/

structure KubernetesAbsence where
  nodeId : String
  absentSince : Option Int
  observedAt : Option Int
  receivedAt : Option Int
  wasSpare : Bool
  blocker : Option String
deriving DecidableEq, Repr

def KubernetesAbsence.proven (absence : KubernetesAbsence) : Bool := absence.blocker.isNone

def noReportBlocker : String :=
  "no Kubernetes node report from the cluster's executor; Kubernetes absence is unproven"

def presentBlocker : String := "node is still in Kubernetes"

def kubernetesAbsence (inventory : Option KubernetesNodeInventory) (nodeId : String) (now guard : Int) :
    KubernetesAbsence :=
  match inventory with
  | none => ⟨nodeId, none, none, none, false, some noReportBlocker⟩
  | some inventory =>
    let age := now - inventory.receivedAt
    if nodeId ∈ inventory.nodeNames then
      ⟨nodeId, none, some inventory.observedAt, some inventory.receivedAt, inventory.spareNodeNames.contains nodeId,
        some presentBlocker⟩
    else
      let entry := inventory.absent.lookup nodeId
      let since := entry.elim inventory.retainedSince AbsentNode.since
      let span := inventory.receivedAt - since
      let blocker :=
        if nodeInventoryFreshness < age then
          some ("the cluster's latest Kubernetes node report is " ++ wholeSeconds age ++ " old (limit " ++
            wholeSeconds nodeInventoryFreshness ++ "); Kubernetes absence is unproven")
        else if span < guard then
          some ("node has been absent from Kubernetes reports for " ++ wholeSeconds (max 0 span) ++ " of the " ++
            wholeSeconds guard ++ " guard")
        else none
      ⟨nodeId, some since, some inventory.observedAt, some inventory.receivedAt, entry.elim false AbsentNode.wasSpare,
        blocker⟩

structure UnknownProviderExit where
  blocker : Option String
  neverReported : Bool := false
  absentSince : Option Int := none
  chainStartedAt : Option Int := none
  receivedAt : Option Int := none
  opensAt : Option Int := none
deriving DecidableEq, Repr

def UnknownProviderExit.isOpen (exit : UnknownProviderExit) : Bool := exit.blocker.isNone

def unknownProviderExit (isoformat : Int → String) (inventory : Option KubernetesNodeInventory) (nodeId : String)
    (now guard : Int) : UnknownProviderExit :=
  match inventory with
  | none => { blocker := some noReportBlocker }
  | some inventory =>
    let verdict (blocker : Option String) (neverReported : Bool) (absentSince opensAt : Option Int) :
        UnknownProviderExit :=
      ⟨blocker, neverReported, absentSince, some inventory.chainStartedAt, some inventory.receivedAt, opensAt⟩
    let age := now - inventory.receivedAt
    if nodeInventoryFreshness < age then
      verdict (some ("the cluster's latest Kubernetes node report is " ++ wholeSeconds age ++ " old (limit " ++
        wholeSeconds nodeInventoryFreshness ++ ")")) false none none
    else if nodeId ∈ inventory.nodeNames then verdict (some presentBlocker) false none none
    else
      match inventory.absent.lookup nodeId with
      | some entry =>
        let opens := entry.since + unknownProviderAbsence
        if now < opens then
          verdict (some ("the node left the Kubernetes node reports at " ++ isoformat entry.since ++
            "; an unknown provider identity is accepted 24 hours after that, from " ++ isoformat opens))
            false (some entry.since) (some opens)
        else verdict none false (some entry.since) none
      | none =>
        -- never listed in the chain, or so long ago that its absence was pruned
        let pruned : Bool := inventory.chainStartedAt < inventory.retainedSince
        let since := if pruned then none else some inventory.chainStartedAt
        let span := inventory.receivedAt - inventory.chainStartedAt
        if span < guard then
          verdict (some ("the cluster's unbroken run of Kubernetes node reports covers " ++
            wholeSeconds (max 0 span) ++
            " of the " ++ wholeSeconds guard ++ " guard")) (!pruned) since none
        else verdict none (!pruned) since none

end GpuFaultRecovery
