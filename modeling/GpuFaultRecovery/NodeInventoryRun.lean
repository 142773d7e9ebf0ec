import GpuFaultRecovery.NodeInventory
import GpuFaultRecovery.Run

/-!
# What the node inventory remembers of the reports

The record of a cluster is one row that every report rewrites. Here it is set against the reports themselves:
`recorded` keeps every report that was taken, the latest first, and no step reads it.
-/

namespace GpuFaultRecovery

/-! ### The reports of a cluster -/

structure RecordedReport where
  report : KubernetesNodeInventoryReport
  receivedAt : Int
deriving DecidableEq, Repr

/-- Whether a report is of the same chain as those before it. -/
def continues (latest : RecordedReport) : List RecordedReport → Bool
  | [] => false
  | before :: _ => latest.receivedAt - before.receivedAt ≤ nodeInventoryMaxGap

def chainStart : List RecordedReport → Int
  | [] => 0
  | latest :: older => if continues latest older then chainStart older else latest.receivedAt

/-- Since when the reports of the chain leave a node out. -/
def absentSince (nodeId : String) : List RecordedReport → Option Int
  | [] => none
  | latest :: older =>
    if nodeId ∈ latest.report.nodeNames then none
    else if continues latest older then some ((absentSince nodeId older).getD latest.receivedAt)
    else some latest.receivedAt

def listedInChain (nodeId : String) : List RecordedReport → Bool
  | [] => false
  | latest :: older =>
    latest.report.nodeNames.contains nodeId || (continues latest older && listedInChain nodeId older)

def Ordered (history : List RecordedReport) : Prop :=
  history.Pairwise fun newer older => older.receivedAt ≤ newer.receivedAt

section History

variable {nodeId : String} {latest : RecordedReport} {older history : List RecordedReport} {since : Int}

private theorem absentSince_eq_none :
    absentSince nodeId (latest :: older) = none ↔ nodeId ∈ latest.report.nodeNames := by
  rw [absentSince]
  split
  · exact iff_of_true rfl ‹_›
  · split
    · exact iff_of_false (by simp) ‹_›
    · exact iff_of_false (by simp) ‹_›

private theorem not_mem_of_absentSince (h : absentSince nodeId (latest :: older) = some since) :
    nodeId ∉ latest.report.nodeNames := fun hin => by
  rw [absentSince_eq_none.mpr hin] at h
  cases h

private theorem not_mem_of_not_listed (h : listedInChain nodeId (latest :: older) = false) :
    nodeId ∉ latest.report.nodeNames := fun hin => by
  rw [listedInChain, List.contains_iff_mem.mpr hin, Bool.true_or] at h
  cases h

private theorem absentSince_continues (hnot : nodeId ∉ latest.report.nodeNames)
    (hcontinues : continues latest older = true) :
    absentSince nodeId (latest :: older) = some ((absentSince nodeId older).getD latest.receivedAt) := by
  rw [absentSince, if_neg hnot, if_pos hcontinues]

private theorem listedInChain_continues (hnot : nodeId ∉ latest.report.nodeNames)
    (hcontinues : continues latest older = true) :
    listedInChain nodeId (latest :: older) = listedInChain nodeId older := by
  have hcontains : latest.report.nodeNames.contains nodeId = false := by simpa using hnot
  rw [listedInChain, hcontains, hcontinues, Bool.false_or, Bool.true_and]

private theorem chainStart_le (h : Ordered (latest :: older)) : chainStart (latest :: older) ≤ latest.receivedAt := by
  induction older generalizing latest with
  | nil => exact Int.le_refl _
  | cons before older ih =>
    obtain ⟨hlatest, hrest⟩ := List.pairwise_cons.mp h
    rw [chainStart]
    split
    · exact Int.le_trans (ih hrest) (hlatest before (List.mem_cons_self ..))
    · exact Int.le_refl _

/-- An absence lies between the start of the chain and its latest report. -/
private theorem absentSince_range (h : Ordered (latest :: older))
    (hsince : absentSince nodeId (latest :: older) = some since) :
    chainStart (latest :: older) ≤ since ∧ since ≤ latest.receivedAt := by
  have hnot := not_mem_of_absentSince hsince
  induction older generalizing latest since with
  | nil =>
    rw [absentSince, if_neg hnot] at hsince
    rw [← Option.some.inj hsince]
    exact ⟨chainStart_le h, Int.le_refl _⟩
  | cons before older ih =>
    obtain ⟨hlatest, hrest⟩ := List.pairwise_cons.mp h
    by_cases hcontinues : continues latest (before :: older) = true
    · rw [absentSince_continues hnot hcontinues] at hsince
      have hsame := Option.some.inj hsince
      cases hbefore : absentSince nodeId (before :: older) with
      | none =>
        rw [hbefore] at hsame
        rw [← hsame]
        exact ⟨chainStart_le h, Int.le_refl _⟩
      | some earlier =>
        rw [hbefore] at hsame
        obtain ⟨hstart, hend⟩ := ih hrest hbefore (not_mem_of_absentSince hbefore)
        rw [← hsame, chainStart, if_pos hcontinues]
        exact ⟨hstart, Int.le_trans hend (hlatest before (List.mem_cons_self ..))⟩
    · rw [absentSince, if_neg hnot, if_neg hcontinues] at hsince
      rw [← Option.some.inj hsince]
      exact ⟨chainStart_le h, Int.le_refl _⟩

private theorem absentSince_of_not_listed (h : listedInChain nodeId (latest :: older) = false) :
    absentSince nodeId (latest :: older) = some (chainStart (latest :: older)) := by
  have hnot := not_mem_of_not_listed h
  induction older generalizing latest with
  | nil =>
    rw [absentSince, if_neg hnot]
    rfl
  | cons before older ih =>
    by_cases hcontinues : continues latest (before :: older) = true
    · rw [listedInChain_continues hnot hcontinues] at h
      have hstart : chainStart (latest :: before :: older) = chainStart (before :: older) := if_pos hcontinues
      rw [absentSince_continues hnot hcontinues, ih h (not_mem_of_not_listed h), Option.getD_some, hstart]
    · rw [absentSince, if_neg hnot, if_neg hcontinues, chainStart, if_neg hcontinues]

end History

/-! ### Unbroken runs of reports -/

/-- The latest reports, without a gap between them, all leave the node out. -/
structure LeftOut (nodeId : String) (history window : List RecordedReport) : Prop where
  latest : window <+: history
  unbroken : window.IsChain fun newer older => newer.receivedAt - older.receivedAt ≤ nodeInventoryMaxGap
  leaves : ∀ recorded ∈ window, nodeId ∉ recorded.report.nodeNames

section Windows

variable {nodeId : String} {latest : RecordedReport} {older history window : List RecordedReport} {since : Int}

private theorem leftOut_of_absentSince (h : absentSince nodeId history = some since) :
    ∃ window oldest, LeftOut nodeId history (window ++ [oldest]) ∧ oldest.receivedAt = since := by
  -- the run grows by the latest report for as long as the chain has left the node out
  induction history generalizing since with
  | nil => cases h
  | cons latest older ih =>
    have hnot := not_mem_of_absentSince h
    have halone : LeftOut nodeId (latest :: older) ([] ++ [latest]) :=
      ⟨⟨older, rfl⟩, List.IsChain.singleton _, fun recorded hin => by
        rw [List.nil_append, List.mem_singleton] at hin
        rw [hin]
        exact hnot⟩
    rw [absentSince, if_neg hnot] at h
    split at h
    · rename_i hcontinues
      have hsame := Option.some.inj h
      cases hbefore : absentSince nodeId older with
      | none =>
        rw [hbefore] at hsame
        exact ⟨[], latest, halone, hsame⟩
      | some earlier =>
        rw [hbefore] at hsame
        obtain ⟨window, oldest, hleft, holdest⟩ := ih hbefore
        refine ⟨latest :: window, oldest, ⟨?_, ?_, ?_⟩, holdest.trans hsame⟩
        · rw [List.cons_append]
          exact (List.prefix_cons_inj latest).mpr hleft.latest
        · obtain ⟨rest, hrest⟩ := hleft.latest
          cases hwindow : window ++ [oldest] with
          | nil => simp at hwindow
          | cons before window' =>
            rw [List.cons_append, hwindow, List.isChain_cons_cons]
            refine ⟨?_, hwindow ▸ hleft.unbroken⟩
            rw [hwindow, List.cons_append] at hrest
            rw [← hrest] at hcontinues
            exact of_decide_eq_true hcontinues
        · intro recorded hin
          rcases List.mem_cons.mp hin with rfl | hin
          · exact hnot
          · exact hleft.leaves recorded hin
    · exact ⟨[], latest, halone, Option.some.inj h⟩

/-- No such run reaches further back than the absence. -/
private theorem absentSince_of_leftOut (hordered : Ordered history) {oldest : RecordedReport}
    (h : LeftOut nodeId history (window ++ [oldest])) :
    ∃ since, absentSince nodeId history = some since ∧ since ≤ oldest.receivedAt := by
  induction window generalizing history with
  | nil =>
    obtain ⟨rest, hrest⟩ := h.latest
    rw [List.nil_append, List.singleton_append] at hrest
    subst hrest
    cases hsince : absentSince nodeId (oldest :: rest) with
    | none => exact absurd (absentSince_eq_none.mp hsince) (h.leaves oldest (by simp))
    | some since => exact ⟨since, rfl, (absentSince_range hordered hsince).2⟩
  | cons latest window ih =>
    obtain ⟨rest, hrest⟩ := h.latest
    rw [List.cons_append, List.cons_append] at hrest
    subst hrest
    obtain ⟨-, hordered'⟩ := List.pairwise_cons.mp hordered
    have hunbroken := h.unbroken
    rw [List.cons_append] at hunbroken
    have hrest : LeftOut nodeId (window ++ [oldest] ++ rest) (window ++ [oldest]) := by
      refine ⟨⟨rest, rfl⟩, ?_, fun recorded hin => h.leaves recorded ?_⟩
      · exact List.IsChain.of_cons hunbroken
      · rw [List.cons_append]
        exact List.mem_cons_of_mem _ hin
    obtain ⟨since, hsince, hle⟩ := ih hordered' hrest
    refine ⟨since, ?_, hle⟩
    have hcontinues : continues latest (window ++ [oldest] ++ rest) = true := by
      cases hwindow : window ++ [oldest] with
      | nil => simp at hwindow
      | cons before window' =>
        rw [hwindow, List.isChain_cons_cons] at hunbroken
        exact decide_eq_true hunbroken.1
    rw [absentSince_continues (h.leaves latest (by simp)) hcontinues, hsince, Option.getD_some]

end Windows

/-! ### The record against the reports -/

/-- What an entry of `absent` says of the reports. -/
structure EntryOk (history : List RecordedReport) (entry : String × AbsentNode) : Prop where
  listed : listedInChain entry.1 history = true
  since : absentSince entry.1 history = some entry.2.since

/-- The record says of the reports what they say, as far back as it remembers. -/
structure Remembers (inventory : KubernetesNodeInventory) (latest : RecordedReport) (older : List RecordedReport) :
    Prop where
  names : inventory.nodeNames = latest.report.nodeNames
  received : inventory.receivedAt = latest.receivedAt
  chain : inventory.chainStartedAt = chainStart (latest :: older)
  retained : chainStart (latest :: older) ≤ inventory.retainedSince
  window : inventory.retainedSince = chainStart (latest :: older) ∨
    inventory.retainedSince ≤ latest.receivedAt - nodeInventoryAbsenceRetention
  entry : ∀ entry ∈ inventory.absent, EntryOk (latest :: older) entry
  kept : ∀ entry ∈ inventory.absent, latest.receivedAt - nodeInventoryAbsenceRetention ≤ entry.2.since
  complete : ∀ name since, listedInChain name (latest :: older) = true →
    absentSince name (latest :: older) = some since →
    (∃ entry ∈ inventory.absent, entry.1 = name) ∨
      (since < latest.receivedAt - nodeInventoryAbsenceRetention ∧ since < inventory.retainedSince)

section Merge

variable {previous : KubernetesNodeInventory} {report : KubernetesNodeInventoryReport} {receivedAt : Int}
  {latest : RecordedReport} {older : List RecordedReport} {name : String} {entry : String × AbsentNode}

private theorem remembers_fresh (report : KubernetesNodeInventoryReport) (receivedAt : Int)
    {older : List RecordedReport} (h : continues ⟨report, receivedAt⟩ older = false) :
    Remembers (freshInventory report receivedAt) ⟨report, receivedAt⟩ older := by
  have hstart : chainStart (⟨report, receivedAt⟩ :: older) = receivedAt := by
    rw [chainStart, h]
    rfl
  refine ⟨rfl, rfl, hstart.symm, hstart.le, .inl hstart.symm, fun _ hin => ?_, fun _ hin => ?_,
    fun name since hlisted hsince => ?_⟩
  · cases hin
  · cases hin
  · rw [listedInChain, h, Bool.false_and, Bool.or_false, List.contains_iff_mem] at hlisted
    exact absurd hlisted (not_mem_of_absentSince hsince)

private theorem mem_nextAbsent (h : entry ∈ nextAbsent previous report receivedAt) :
    entry.1 ∉ report.nodeNames ∧ (entry ∈ previous.absent ∨ (entry.1 ∈ previous.nodeNames ∧
      entry.2 = ⟨receivedAt, previous.spareNodeNames.contains entry.1⟩)) := by
  rw [nextAbsent, List.mem_append] at h
  rcases h with h | h
  · rw [List.mem_filter] at h
    refine ⟨fun hin => ?_, .inl h.1⟩
    simp [hin] at h
  · obtain ⟨name, hname, rfl⟩ := List.mem_map.mp h
    rw [List.mem_filter, Bool.and_eq_true] at hname
    refine ⟨fun hin => ?_, .inr ⟨hname.1, rfl⟩⟩
    have hnot := hname.2.1
    rw [List.contains_iff_mem.mpr hin] at hnot
    cases hnot

private theorem nextAbsent_carries (h : entry ∈ previous.absent) (hnot : entry.1 ∉ report.nodeNames) :
    entry ∈ nextAbsent previous report receivedAt := by
  rw [nextAbsent, List.mem_append, List.mem_filter]
  exact .inl ⟨h, by simpa using hnot⟩

private theorem nextAbsent_adds (receivedAt : Int) (h : name ∈ previous.nodeNames) (hnot : name ∉ report.nodeNames) :
    ∃ entry ∈ nextAbsent previous report receivedAt, entry.1 = name := by
  by_cases hcarried : ∃ entry ∈ previous.absent, entry.1 = name
  · obtain ⟨entry, hin, rfl⟩ := hcarried
    exact ⟨entry, nextAbsent_carries hin hnot, rfl⟩
  · refine ⟨(name, ⟨receivedAt, previous.spareNodeNames.contains name⟩), ?_, rfl⟩
    rw [nextAbsent, List.mem_append]
    refine .inr (List.mem_map.mpr ⟨name, List.mem_filter.mpr ⟨h, ?_⟩, rfl⟩)
    rw [Bool.and_eq_true]
    refine ⟨by simpa using hnot, ?_⟩
    rw [Bool.not_eq_true', List.any_eq_false]
    intro entry hin heq
    exact hcarried ⟨entry, (List.mem_filter.mp hin).1, eq_of_beq heq⟩

private theorem mem_absent_nextInventory :
    entry ∈ (nextInventory previous report receivedAt).absent ↔
      entry ∈ nextAbsent previous report receivedAt ∧
        receivedAt - nodeInventoryAbsenceRetention ≤ entry.2.since := by
  simp only [nextInventory, List.mem_insertionSort]
  split
  · rw [List.mem_filter, decide_eq_true_eq]
  · rename_i hnone
    refine ⟨fun hin => ⟨hin, ?_⟩, fun hin => hin.1⟩
    by_contra hlt
    exact hnone (List.any_eq_true.mpr ⟨entry, hin, decide_eq_true (Int.not_le.mp hlt)⟩)

private theorem retainedSince_nextInventory (previous : KubernetesNodeInventory)
    (report : KubernetesNodeInventoryReport) (receivedAt : Int) :
    previous.retainedSince ≤ (nextInventory previous report receivedAt).retainedSince ∧
      ((nextInventory previous report receivedAt).retainedSince = previous.retainedSince ∨
        (nextInventory previous report receivedAt).retainedSince = receivedAt - nodeInventoryAbsenceRetention) ∧
      ∀ entry ∈ nextAbsent previous report receivedAt, entry.2.since < receivedAt - nodeInventoryAbsenceRetention →
        receivedAt - nodeInventoryAbsenceRetention ≤ (nextInventory previous report receivedAt).retainedSince := by
  simp only [nextInventory]
  split
  · refine ⟨Int.le_max_left _ _, ?_, fun _ _ _ => Int.le_max_right _ _⟩
    rcases Int.le_total previous.retainedSince (receivedAt - nodeInventoryAbsenceRetention) with hle | hle
    · exact .inr (Int.max_eq_right hle)
    · exact .inl (Int.max_eq_left hle)
  · rename_i hnone
    refine ⟨Int.le_refl _, .inl rfl, fun entry hin hlt => ?_⟩
    exact absurd (List.any_eq_true.mpr ⟨entry, hin, decide_eq_true hlt⟩) hnone

section Next

variable (h : Remembers previous latest older) (hordered : Ordered (⟨report, receivedAt⟩ :: latest :: older))
  (hcontinues : continues ⟨report, receivedAt⟩ (latest :: older) = true)

include h hcontinues in
private theorem entryOk_next (hentry : entry ∈ nextAbsent previous report receivedAt) :
    EntryOk (⟨report, receivedAt⟩ :: latest :: older) entry := by
  obtain ⟨hnot, hcase⟩ := mem_nextAbsent hentry
  have hlisted := listedInChain_continues hnot hcontinues
  have hsince := absentSince_continues hnot hcontinues
  rcases hcase with hcarried | ⟨hbefore, hnode⟩
  · have hok := h.entry entry hcarried
    rw [hok.since, Option.getD_some] at hsince
    exact ⟨hlisted.trans hok.listed, hsince⟩
  · rw [h.names] at hbefore
    rw [absentSince_eq_none.mpr hbefore, Option.getD_none] at hsince
    refine ⟨?_, by rw [hsince, hnode]⟩
    rw [hlisted, listedInChain, List.contains_iff_mem.mpr hbefore, Bool.true_or]

include h hordered hcontinues in
/-- A report that continues a chain. -/
private theorem Remembers.next :
    Remembers (nextInventory previous report receivedAt) ⟨report, receivedAt⟩ (latest :: older) := by
  have hlatest : latest.receivedAt ≤ receivedAt := (List.pairwise_cons.mp hordered).1 latest (List.mem_cons_self ..)
  have hstart : chainStart (⟨report, receivedAt⟩ :: latest :: older) = chainStart (latest :: older) := by
    rw [chainStart, if_pos hcontinues]
  obtain ⟨hgrows, hmoves, hpast⟩ := retainedSince_nextInventory previous report receivedAt
  have hretained := h.retained
  refine ⟨rfl, rfl, ?_, ?_, ?_, fun entry hin => ?_, fun entry hin => ?_, fun name since hlisted hsince => ?_⟩
  · rw [hstart]
    exact h.chain
  · rw [hstart]
    exact Int.le_trans h.retained hgrows
  · rw [hstart]
    change _ ∨ _ ≤ receivedAt - nodeInventoryAbsenceRetention
    rcases hmoves with hsame | hcut
    · rw [hsame]
      rcases h.window with heq | hle
      · exact .inl heq
      · exact .inr (by omega)
    · exact .inr (Int.le_of_eq hcut)
  · exact entryOk_next h hcontinues (mem_absent_nextInventory.mp hin).1
  · exact (mem_absent_nextInventory.mp hin).2
  · change (∃ entry ∈ _, _) ∨ (since < receivedAt - nodeInventoryAbsenceRetention ∧ _)
    have hnot : name ∉ report.nodeNames := not_mem_of_absentSince hsince
    -- an entry of the name, pruned or kept
    have hjudged : ∀ entry ∈ nextAbsent previous report receivedAt, entry.1 = name →
        (∃ entry ∈ (nextInventory previous report receivedAt).absent, entry.1 = name) ∨
          (since < receivedAt - nodeInventoryAbsenceRetention ∧
            since < (nextInventory previous report receivedAt).retainedSince) := by
      intro entry hin hname
      have hentry := (entryOk_next h hcontinues hin).since
      rw [hname, hsince] at hentry
      have hsame := Option.some.inj hentry
      by_cases hkept : receivedAt - nodeInventoryAbsenceRetention ≤ entry.2.since
      · exact .inl ⟨entry, mem_absent_nextInventory.mpr ⟨hin, hkept⟩, hname⟩
      · have := hpast entry hin (Int.not_le.mp hkept)
        exact .inr ⟨by omega, by omega⟩
    by_cases hbefore : name ∈ latest.report.nodeNames
    · obtain ⟨entry, hin, hname⟩ := nextAbsent_adds receivedAt (h.names ▸ hbefore) hnot
      exact hjudged entry hin hname
    · rw [listedInChain_continues hnot hcontinues] at hlisted
      cases hearlier : absentSince name (latest :: older) with
      | none => exact absurd (absentSince_eq_none.mp hearlier) hbefore
      | some earlier =>
        rw [absentSince_continues hnot hcontinues, hearlier, Option.getD_some] at hsince
        have hsame := Option.some.inj hsince
        rcases h.complete name earlier hlisted hearlier with ⟨entry, hin, rfl⟩ | ⟨hold, hretained'⟩
        · exact hjudged entry (nextAbsent_carries hin hnot) rfl
        · exact .inr ⟨by omega, by omega⟩

end Next

end Merge

/-! ### Every cluster's record -/

structure InventoryWorld where
  inventories : Table KubernetesNodeInventory.clusterId := Table.empty
  recorded : String → List RecordedReport := fun _ => []

def newerReport (previous : Option KubernetesNodeInventory) (report : KubernetesNodeInventoryReport) : Bool :=
  match previous with
  | none => true
  | some previous => previous.observedAt < report.observedAt

/-- A report arrives. One that is refused leaves everything as it is. -/
def inventoryStep (isoformat : Int → String) (s : InventoryWorld) (delivered : RecordedReport) : InventoryWorld :=
  match recordInventoryReport isoformat s.inventories delivered.report delivered.receivedAt with
  | .error _ => s
  | .ok (inventories, _) =>
    { inventories := inventories
      recorded := fun clusterId =>
        if clusterId = delivered.report.clusterId ∧ newerReport (s.inventories.get? clusterId) delivered.report then
          delivered :: s.recorded clusterId
        else s.recorded clusterId }

def ReceivedInOrder (s : InventoryWorld) (delivered : RecordedReport) : Prop :=
  (s.inventories.get? delivered.report.clusterId).all
    (fun previous => previous.receivedAt ≤ delivered.receivedAt) = true

instance (s : InventoryWorld) (delivered : RecordedReport) : Decidable (ReceivedInOrder s delivered) :=
  inferInstanceAs (Decidable (_ = true))

def InventoryOk (inventory : Option KubernetesNodeInventory) (history : List RecordedReport) : Prop :=
  match inventory with
  | none => history = []
  | some inventory => ∃ latest older, history = latest :: older ∧ Remembers inventory latest older ∧ Ordered history

def InventoriesOk (s : InventoryWorld) : Prop :=
  ∀ clusterId, InventoryOk (s.inventories.get? clusterId) (s.recorded clusterId)

section Steps

variable {isoformat : Int → String} {s : InventoryWorld} {delivered : RecordedReport}
  {previous : Option KubernetesNodeInventory} {history : List RecordedReport}

private theorem clusterId_mergeNodeInventory {report : KubernetesNodeInventoryReport} {receivedAt : Int}
    (h : ∀ inventory, previous = some inventory → inventory.clusterId = report.clusterId) :
    (mergeNodeInventory previous report receivedAt).clusterId = report.clusterId := by
  cases previous with
  | none => rfl
  | some inventory =>
    simp only [mergeNodeInventory]
    split
    · exact h inventory rfl
    · split
      · rfl
      · rfl

/-- The record after a report, against the reports with it. -/
private theorem InventoryOk.merge (h : InventoryOk previous history)
    (hordered : previous.all (fun previous => previous.receivedAt ≤ delivered.receivedAt) = true) :
    InventoryOk (some (mergeNodeInventory previous delivered.report delivered.receivedAt))
      (if newerReport previous delivered.report then delivered :: history else history) := by
  cases previous with
  | none =>
    have hempty : history = [] := h
    rw [newerReport, if_pos rfl, hempty]
    exact ⟨delivered, [], rfl, remembers_fresh delivered.report delivered.receivedAt rfl, List.pairwise_singleton _ _⟩
  | some inventory =>
    obtain ⟨latest, older, rfl, hremembers, hpast⟩ := h
    by_cases hnewer : inventory.observedAt < delivered.report.observedAt
    · rw [newerReport, if_pos (decide_eq_true hnewer)]
      have hle : latest.receivedAt ≤ delivered.receivedAt := by
        rw [← hremembers.received]
        exact of_decide_eq_true hordered
      have hordered' : Ordered (delivered :: latest :: older) := by
        refine List.pairwise_cons.mpr ⟨fun before hin => ?_, hpast⟩
        rcases List.mem_cons.mp hin with rfl | hin
        · exact hle
        · exact Int.le_trans ((List.pairwise_cons.mp hpast).1 before hin) hle
      refine ⟨delivered, latest :: older, rfl, ?_, hordered'⟩
      have hcontinues : continues delivered (latest :: older) =
          decide (delivered.receivedAt - inventory.receivedAt ≤ nodeInventoryMaxGap) := by
        rw [hremembers.received]
        rfl
      -- the merge judges the gap by the record, the history by the report before
      simp only [mergeNodeInventory]
      rw [if_neg (by omega)]
      split
      · refine remembers_fresh delivered.report delivered.receivedAt ?_
        rw [hcontinues]
        exact decide_eq_false (by omega)
      · refine hremembers.next hordered' ?_
        rw [hcontinues]
        exact decide_eq_true (by omega)
    · rw [newerReport, if_neg (by simpa using hnewer)]
      have hstale : mergeNodeInventory (some inventory) delivered.report delivered.receivedAt = inventory :=
        if_pos (by omega)
      rw [hstale]
      exact ⟨latest, older, rfl, hremembers, hpast⟩

private theorem InventoriesOk.step (h : InventoriesOk s) (hordered : ReceivedInOrder s delivered) :
    InventoriesOk (inventoryStep isoformat s delivered) := by
  simp only [inventoryStep, recordInventoryReport]
  split
  · exact h
  · rename_i inventories receipt hok
    split at hok
    · cases hok
    · obtain ⟨rfl, -⟩ := Prod.mk.inj (Except.ok.inj hok)
      have hkey : (mergeNodeInventory (s.inventories.get? delivered.report.clusterId) delivered.report
          delivered.receivedAt).clusterId = delivered.report.clusterId :=
        clusterId_mergeNodeInventory fun inventory hin => Table.key_of_get? hin
      intro clusterId
      simp only [Table.get?_put, hkey]
      by_cases he : clusterId = delivered.report.clusterId
      · subst he
        simp only [if_pos, true_and]
        exact (h delivered.report.clusterId).merge hordered
      · simp only [he, if_false, false_and]
        exact h clusterId

private theorem InventoriesOk.exec {l : List RecordedReport}
    (h : Run.Along (inventoryStep isoformat) ReceivedInOrder {} l) :
    InventoriesOk (Run.exec (inventoryStep isoformat) {} l) :=
  Run.invariant_exec (fun _ _ hs hi => hs.step hi) (fun clusterId => by
    change InventoryOk (Table.empty.get? clusterId) []
    rw [Table.get?_empty]
    rfl) h

end Steps

/-! ### What the record proves of the reports -/

section Proofs

variable {inventory : KubernetesNodeInventory} {latest : RecordedReport} {older : List RecordedReport}
  {nodeId : String}
  {now guard : Int}

private theorem entry_of_lookup {absent : List (String × AbsentNode)} {node : AbsentNode}
    (h : absent.lookup nodeId = some node) : (nodeId, node) ∈ absent := by
  induction absent with
  | nil => cases h
  | cons entry absent ih =>
    rw [List.lookup_cons] at h
    split at h
    · rename_i heq
      rw [← Option.some.inj h, eq_of_beq heq]
      exact List.mem_cons_self ..
    · exact List.mem_cons_of_mem _ (ih h)

private theorem lookup_eq_none_of_absent {absent : List (String × AbsentNode)} (h : absent.lookup nodeId = none) :
    ¬ ∃ entry ∈ absent, entry.1 = nodeId := by
  rintro ⟨entry, hin, rfl⟩
  rw [List.lookup_eq_none_iff] at h
  exact absurd (h entry hin) (by simp)

/-- The moment that the record names is not before the real one; it is the real one, or it lies a whole retention
window back. -/
private theorem Remembers.since (h : Remembers inventory latest older) (hordered : Ordered (latest :: older))
    (hnot : nodeId ∉ latest.report.nodeNames) :
    ∃ since, absentSince nodeId (latest :: older) = some since ∧
      since ≤ (inventory.absent.lookup nodeId).elim inventory.retainedSince AbsentNode.since ∧
      ((inventory.absent.lookup nodeId).elim inventory.retainedSince AbsentNode.since = since ∨
        (inventory.absent.lookup nodeId).elim inventory.retainedSince AbsentNode.since ≤
          latest.receivedAt - nodeInventoryAbsenceRetention) := by
  cases hentry : inventory.absent.lookup nodeId with
  | some node => exact ⟨node.since, (h.entry _ (entry_of_lookup hentry)).since, Int.le_refl _, .inl rfl⟩
  | none =>
    change ∃ since, _ ∧ since ≤ inventory.retainedSince ∧
      (inventory.retainedSince = since ∨ inventory.retainedSince ≤ _)
    cases hlisted : listedInChain nodeId (latest :: older) with
    | false => exact ⟨_, absentSince_of_not_listed hlisted, h.retained, h.window⟩
    | true =>
      cases hsince : absentSince nodeId (latest :: older) with
      | none => exact absurd (absentSince_eq_none.mp hsince) hnot
      | some since =>
        have hstart := (absentSince_range hordered hsince).1
        rcases h.complete nodeId since hlisted hsince with hin | ⟨-, hpast⟩
        · exact absurd hin (lookup_eq_none_of_absent hentry)
        · refine ⟨since, rfl, Int.le_of_lt hpast, .inr ?_⟩
          rcases h.window with heq | hle
          · omega
          · exact hle

private theorem proven_iff (hnot : nodeId ∉ inventory.nodeNames) :
    (kubernetesAbsence (some inventory) nodeId now guard).proven = true ↔
      now - inventory.receivedAt ≤ nodeInventoryFreshness ∧
        guard ≤ inventory.receivedAt - (inventory.absent.lookup nodeId).elim inventory.retainedSince
          AbsentNode.since := by
  simp only [kubernetesAbsence, if_neg hnot, KubernetesAbsence.proven]
  split
  · rename_i hold
    exact iff_of_false (by simp) fun h => by omega
  · split
    · rename_i hshort
      exact iff_of_false (by simp) fun h => by omega
    · rename_i hfresh hlong
      exact iff_of_true rfl ⟨by omega, by omega⟩

end Proofs

/-- What it takes for the reports to show a node gone: the latest is fresh, and an unbroken run of the latest reports
leaves the node out for at least the guard. -/
def ReportsShowAbsence (history : List RecordedReport) (nodeId : String) (now guard : Int) : Prop :=
  ∃ latest older window oldest, history = latest :: older ∧ now - latest.receivedAt ≤ nodeInventoryFreshness ∧
    LeftOut nodeId history (window ++ [oldest]) ∧ guard ≤ latest.receivedAt - oldest.receivedAt

/-- Whatever reports arrive, stale, refused, late or from other clusters: an absence that the record of a cluster
proves is one that its reports show, and for a guard within the retention every absence that they show is proven. -/
theorem absence_proven_exactly (isoformat : Int → String) (l : List RecordedReport)
    (hordered : Run.Along (inventoryStep isoformat) ReceivedInOrder {} l) (clusterId nodeId : String)
    (now guard : Int) :
    let s := Run.exec (inventoryStep isoformat) {} l
    ((kubernetesAbsence (s.inventories.get? clusterId) nodeId now guard).proven = true →
        ReportsShowAbsence (s.recorded clusterId) nodeId now guard) ∧
      (guard ≤ nodeInventoryAbsenceRetention → ReportsShowAbsence (s.recorded clusterId) nodeId now guard →
        (kubernetesAbsence (s.inventories.get? clusterId) nodeId now guard).proven = true) := by
  intro s
  have hok : InventoryOk (s.inventories.get? clusterId) (s.recorded clusterId) :=
    InventoriesOk.exec hordered clusterId
  cases hinventory : s.inventories.get? clusterId with
  | none =>
    rw [hinventory] at hok
    refine ⟨fun h => (by cases h), fun _ hshow => ?_⟩
    obtain ⟨latest, older, -, -, hhistory, -⟩ := hshow
    cases hhistory.symm.trans hok
  | some inventory =>
    rw [hinventory] at hok
    obtain ⟨latest, older, hhistory, hremembers, hpast⟩ := hok
    rw [hhistory] at hpast
    rw [hhistory, ReportsShowAbsence]
    have hreceived := hremembers.received
    by_cases hlisted : nodeId ∈ inventory.nodeNames
    · refine ⟨fun h => ?_, fun _ hshow => ?_⟩
      · simp only [kubernetesAbsence, if_pos hlisted, KubernetesAbsence.proven] at h
        cases h
      · obtain ⟨latest', older', window, oldest, hsame, -, hleft, -⟩ := hshow
        rw [hremembers.names] at hlisted
        obtain ⟨since, hsince, -⟩ := absentSince_of_leftOut hpast hleft
        exact absurd hlisted (not_mem_of_absentSince hsince)
    · have hnot : nodeId ∉ latest.report.nodeNames := by rwa [← hremembers.names]
      obtain ⟨since, hsince, hle, hexact⟩ := hremembers.since hpast hnot
      rw [proven_iff hlisted]
      -- the record may name a later moment than the real one, but then one a whole retention back
      refine ⟨fun ⟨hfresh, hspan⟩ => ?_, fun hguard hshow => ?_⟩
      · obtain ⟨window, oldest, hleft, holdest⟩ := leftOut_of_absentSince hsince
        exact ⟨latest, older, window, oldest, rfl, by omega, hleft, by omega⟩
      · obtain ⟨latest', older', window, oldest, hsame, hfresh, hleft, hspan⟩ := hshow
        obtain ⟨rfl, rfl⟩ := List.cons.inj hsame
        obtain ⟨since', hsince', hbefore⟩ := absentSince_of_leftOut hpast hleft
        obtain rfl := Option.some.inj (hsince.symm.trans hsince')
        refine ⟨by omega, ?_⟩
        rcases hexact with heq | hold
        · omega
        · omega

/-- A node that leaves the reports is proven gone once they span the guard. -/
theorem absence_proven_exactly_departed :
    let l : List RecordedReport :=
      [⟨⟨"c", "e", 0, none, ["m", "n"], []⟩, 0⟩, ⟨⟨"c", "e", 60000000, none, ["m"], []⟩, 60000000⟩,
        ⟨⟨"c", "f", 50000000, none, ["m", "n"], []⟩, 61000000⟩, ⟨⟨"c", "e", 300000000, none, ["m"], []⟩, 300000000⟩]
    let s := Run.exec (inventoryStep fun _ => "") {} l
    (kubernetesAbsence (s.inventories.get? "c") "n" 310000000 240000000).proven = true ∧
      ReportsShowAbsence (s.recorded "c") "n" 310000000 240000000 := by
  intro l s
  have hproven : (kubernetesAbsence (s.inventories.get? "c") "n" 310000000 240000000).proven = true := by
    decide +kernel
  exact ⟨hproven, (absence_proven_exactly (fun _ => "") l (by decide +kernel) "c" "n" 310000000 240000000).1 hproven⟩

section Exit

variable {isoformat : Int → String} {inventory : KubernetesNodeInventory} {latest : RecordedReport}
  {older : List RecordedReport} {nodeId : String} {now guard : Int}

/-- An exit for a node that the chain lists no more. -/
private theorem isOpen_iff (hfresh : now - inventory.receivedAt ≤ nodeInventoryFreshness)
    (hnot : nodeId ∉ inventory.nodeNames) :
    (unknownProviderExit isoformat (some inventory) nodeId now guard).isOpen = true ↔
      (inventory.absent.lookup nodeId).elim (guard ≤ inventory.receivedAt - inventory.chainStartedAt)
        fun entry => entry.since + unknownProviderAbsence ≤ now := by
  simp only [unknownProviderExit, if_neg hnot, if_neg (Int.not_lt.mpr hfresh), UnknownProviderExit.isOpen]
  cases hentry : inventory.absent.lookup nodeId with
  | some entry =>
    change _ ↔ entry.since + unknownProviderAbsence ≤ now
    simp only
    split
    · exact iff_of_false (by simp) (by omega)
    · exact iff_of_true rfl (by omega)
  | none =>
    change _ ↔ guard ≤ inventory.receivedAt - inventory.chainStartedAt
    simp only
    split
    · exact iff_of_false (by simp) (by omega)
    · exact iff_of_true rfl (by omega)

/-- Where the chain lists the node, the exit opens when the absence is a day old. -/
private theorem Remembers.isOpen_listed (h : Remembers inventory latest older) (hordered : Ordered (latest :: older))
    (hfresh : now - inventory.receivedAt ≤ nodeInventoryFreshness) (hnow : inventory.receivedAt ≤ now)
    (hguard : guard ≤ unknownProviderAbsence) {since : Int} (hlisted : listedInChain nodeId (latest :: older) = true)
    (hsince : absentSince nodeId (latest :: older) = some since) :
    (unknownProviderExit isoformat (some inventory) nodeId now guard).isOpen = true ↔
      since + unknownProviderAbsence ≤ now := by
  have hnot : nodeId ∉ inventory.nodeNames := h.names ▸ not_mem_of_absentSince hsince
  rw [isOpen_iff hfresh hnot]
  cases hentry : inventory.absent.lookup nodeId with
  | some entry =>
    have hsame := (h.entry _ (entry_of_lookup hentry)).since
    rw [Option.some.inj (hsince.symm.trans hsame)]
    rfl
  | none =>
    -- pruned, so that the absence is older than a day, and the chain with it
    have hstart := (absentSince_range hordered hsince).1
    have hreceived := h.received
    have hchain := h.chain
    rcases h.complete nodeId since hlisted hsince with hin | ⟨hold, -⟩
    · exact absurd hin (lookup_eq_none_of_absent hentry)
    · unfold unknownProviderAbsence at hguard ⊢
      unfold nodeInventoryAbsenceRetention at hold
      change guard ≤ inventory.receivedAt - inventory.chainStartedAt ↔ _
      exact iff_of_true (by omega) (by omega)

private theorem Remembers.isOpen_unlisted (h : Remembers inventory latest older)
    (hfresh : now - inventory.receivedAt ≤ nodeInventoryFreshness)
    (hlisted : listedInChain nodeId (latest :: older) = false) :
    (unknownProviderExit isoformat (some inventory) nodeId now guard).isOpen = true ↔
      guard ≤ latest.receivedAt - chainStart (latest :: older) := by
  have hnot : nodeId ∉ inventory.nodeNames := h.names ▸ not_mem_of_not_listed hlisted
  rw [isOpen_iff hfresh hnot]
  cases hentry : inventory.absent.lookup nodeId with
  | some entry =>
    have := (h.entry _ (entry_of_lookup hentry)).listed
    rw [hlisted] at this
    cases this
  | none =>
    change guard ≤ inventory.receivedAt - inventory.chainStartedAt ↔ _
    rw [h.received, h.chain]

/-- What is said never to have been reported was not. -/
private theorem Remembers.neverReported (h : Remembers inventory latest older) (hordered : Ordered (latest :: older))
    (hnever : (unknownProviderExit isoformat (some inventory) nodeId now guard).neverReported = true) :
    listedInChain nodeId (latest :: older) = false := by
  by_contra hlisted
  rw [Bool.not_eq_false] at hlisted
  simp only [unknownProviderExit] at hnever
  split at hnever
  · cases hnever
  split at hnever
  · cases hnever
  rename_i hnot
  rw [h.names] at hnot
  split at hnever
  · split at hnever
    · cases hnever
    · cases hnever
  · rename_i hentry
    have hretained : ¬ inventory.chainStartedAt < inventory.retainedSince := by
      split at hnever
      · simpa using hnever
      · simpa using hnever
    cases hsince : absentSince nodeId (latest :: older) with
    | none => exact hnot (absentSince_eq_none.mp hsince)
    | some since =>
      have hstart := (absentSince_range hordered hsince).1
      have hchain := h.chain
      rcases h.complete nodeId since hlisted hsince with hin | ⟨-, hpast⟩
      · exact lookup_eq_none_of_absent hentry hin
      · omega

end Exit

/-- For a guard of at most a day, judged no earlier than the latest report: the exit for an unknown provider identity
is open exactly if the latest report is fresh and leaves the node out, and either every report of its unbroken run
left it out and the run spans the guard, or the reports have left it out for a day. What it says was never reported
was never listed. -/
theorem unknown_provider_exit_exact (isoformat : Int → String) (l : List RecordedReport)
    (hordered : Run.Along (inventoryStep isoformat) ReceivedInOrder {} l) (clusterId nodeId : String)
    (now guard : Int) (hguard : guard ≤ unknownProviderAbsence) :
    let s := Run.exec (inventoryStep isoformat) {} l
    (∀ recorded ∈ s.recorded clusterId, recorded.receivedAt ≤ now) →
    let exit := unknownProviderExit isoformat (s.inventories.get? clusterId) nodeId now guard
    (exit.isOpen = true ↔ ∃ latest older since, s.recorded clusterId = latest :: older ∧
      now - latest.receivedAt ≤ nodeInventoryFreshness ∧ absentSince nodeId (latest :: older) = some since ∧
      ((listedInChain nodeId (latest :: older) = false ∧ guard ≤ latest.receivedAt - chainStart (latest :: older)) ∨
        (listedInChain nodeId (latest :: older) = true ∧ since + unknownProviderAbsence ≤ now))) ∧
      (exit.neverReported = true → listedInChain nodeId (s.recorded clusterId) = false) := by
  intro s hnow exit
  have hok : InventoryOk (s.inventories.get? clusterId) (s.recorded clusterId) :=
    InventoriesOk.exec hordered clusterId
  cases hinventory : s.inventories.get? clusterId with
  | none =>
    have hexit : exit = { blocker := some noReportBlocker } := by simp only [exit, hinventory, unknownProviderExit]
    rw [hinventory] at hok
    refine ⟨⟨fun h => ?_, fun ⟨latest, older, _, hhistory, _⟩ => ?_⟩, fun h => ?_⟩
    · rw [hexit] at h
      cases h
    · cases hhistory.symm.trans hok
    · rw [hexit] at h
      cases h
  | some inventory =>
    have hexit : exit = unknownProviderExit isoformat (some inventory) nodeId now guard := by
      simp only [exit, hinventory]
    rw [hinventory] at hok
    obtain ⟨latest, older, hhistory, hremembers, hpast⟩ := hok
    rw [hhistory] at hpast hnow
    have hreceived := hremembers.received
    have hlatest := hnow latest (List.mem_cons_self ..)
    rw [hexit, hhistory]
    refine ⟨⟨fun hopen => ?_, ?_⟩, hremembers.neverReported hpast⟩
    · have hfresh : now - inventory.receivedAt ≤ nodeInventoryFreshness := by
        by_contra hold
        simp only [unknownProviderExit, if_pos (Int.not_le.mp hold), UnknownProviderExit.isOpen] at hopen
        cases hopen
      have hnot : nodeId ∉ latest.report.nodeNames := fun hin => by
        rw [← hremembers.names] at hin
        simp only [unknownProviderExit, if_neg (Int.not_lt.mpr hfresh), if_pos hin, UnknownProviderExit.isOpen]
          at hopen
        cases hopen
      cases hsince : absentSince nodeId (latest :: older) with
      | none => exact absurd (absentSince_eq_none.mp hsince) hnot
      | some since =>
        refine ⟨latest, older, since, rfl, by omega, hsince, ?_⟩
        cases hlisted : listedInChain nodeId (latest :: older) with
        | false => exact .inl ⟨rfl, (hremembers.isOpen_unlisted hfresh hlisted).mp hopen⟩
        | true =>
          exact .inr ⟨rfl, (hremembers.isOpen_listed hpast hfresh (by omega) hguard hlisted hsince).mp hopen⟩
    · rintro ⟨latest', older', since, hsame, hfresh, hsince, hcase⟩
      obtain ⟨rfl, rfl⟩ := List.cons.inj hsame
      have hfresh' : now - inventory.receivedAt ≤ nodeInventoryFreshness := by omega
      rcases hcase with ⟨hlisted, hspan⟩ | ⟨hlisted, hspan⟩
      · exact (hremembers.isOpen_unlisted hfresh' hlisted).mpr hspan
      · exact (hremembers.isOpen_listed hpast hfresh' (by omega) hguard hlisted hsince).mpr hspan

/-- A node that no report ever listed. -/
theorem unknown_provider_exit_exact_unlisted :
    let l : List RecordedReport :=
      [⟨⟨"c", "e", 0, none, ["m"], []⟩, 0⟩, ⟨⟨"c", "e", 300000000, none, ["m"], []⟩, 300000000⟩]
    let s := Run.exec (inventoryStep fun _ => "") {} l
    (unknownProviderExit (fun _ => "") (s.inventories.get? "c") "n" 310000000 240000000).isOpen = true ∧
      listedInChain "n" (s.recorded "c") = false := by
  intro l s
  have hexact :=
    unknown_provider_exit_exact (fun _ => "") l (by decide +kernel) "c" "n" 310000000 240000000 (by decide)
    (by decide +kernel)
  have hnever : listedInChain "n" (s.recorded "c") = false := hexact.2 (by decide +kernel)
  refine ⟨hexact.1.mpr ?_, hnever⟩
  exact ⟨⟨⟨"c", "e", 300000000, none, ["m"], []⟩, 300000000⟩, [⟨⟨"c", "e", 0, none, ["m"], []⟩, 0⟩], 0,
    by decide +kernel, by decide, by decide +kernel, .inl ⟨by decide +kernel, by decide +kernel⟩⟩

end GpuFaultRecovery
