import Mathlib.Data.Prod.Lex
import Mathlib.Data.String.Basic
import GpuFaultRecovery.CursorPaging
import GpuFaultRecovery.IsoTime
import GpuFaultRecovery.Models

/-!
# Paging the dispatch order

The dispatcher reads the workflows page by page, in the order in which they became eligible. The stores compare the
times as texts, in UTC and with six digits of microseconds, so that an index can serve the order. On the times that
have such a text, the order of the texts is the order of the instants, and the pages give every row once.
-/

namespace GpuFaultRecovery

/-! ### Times -/

/-- An aware `datetime`, in microseconds: its wall clock since the start of year 1, and its offset from UTC. -/
structure AwareDatetime where
  wall : Nat
  utcoffset : Int
  wall_lt : wall < IsoTime.instantEnd
  offset_lt : -IsoTime.microsPerDay < utcoffset ∧ utcoffset < IsoTime.microsPerDay
deriving DecidableEq

namespace AwareDatetime

variable (value : AwareDatetime)

def instant : Int := value.wall - value.utcoffset

/-- Whether `astimezone(timezone.utc)` is a `datetime`: it raises before year 1 and after year 9999. -/
def inUtcRange : Bool := decide (0 ≤ value.instant) && decide (value.instant < IsoTime.instantEnd)

/-- `isoformat(timespec="microseconds")` in UTC. -/
def utcIsoformat : List Char := IsoTime.isoText value.instant.toNat ++ ['+', '0', '0', ':', '0', '0']

/-- `datetime_json_text`, for aware values. -/
def jsonText : Option String :=
  if value.inUtcRange then
    some (String.ofList (value.utcIsoformat.take (value.utcIsoformat.length - 6)) ++ "Z")
  else none

end AwareDatetime

/-! ### Rows -/

/-- What the scan reads of a workflow. -/
structure ScanRow where
  requestId : String
  status : WorkflowStatus
  blockedKind : Option BlockedKind := none
  predecessorWorkflowId : Option String := none
  createdAt : AwareDatetime
  notBefore : Option AwareDatetime := none
  updatedAt : AwareDatetime
deriving DecidableEq

/-- The rows of a store, under their request ids. -/
structure ScanTable where
  rows : List ScanRow
  ids : (rows.map ScanRow.requestId).Nodup

def ScanTable.get? (table : ScanTable) (requestId : String) : Option ScanRow :=
  table.rows.find? fun row => row.requestId == requestId

inductive HeldReason where
  | retired
  | notBefore
  | predecessor
deriving Repr, DecidableEq

def ScanRow.heldReason (row : ScanRow) (dispatchableAt : AwareDatetime) (excludeRequestIds : List String)
    (lookup : String → Option ScanRow) : Option HeldReason :=
  if excludeRequestIds.contains row.requestId then some .retired
  else if row.notBefore.any fun time => decide (dispatchableAt.instant < time.instant) then some .notBefore
  else if (row.predecessorWorkflowId.bind lookup).any fun found => workflowIsOpen found.status found.blockedKind then
    some .predecessor
  else none

def dispatchEligibleAt (row : ScanRow) : AwareDatetime :=
  match row.notBefore with
  | some time => if row.createdAt.instant < time.instant then time else row.createdAt
  | none => row.createdAt

/-- The key of the dispatch order as the stores compare it; none if a time has no text. -/
def dispatchOrderKey (row : ScanRow) : Option (String ×ₗ String) :=
  row.createdAt.jsonText.bind fun created =>
    match row.notBefore with
    | some time => time.jsonText.map fun text => toLex (max created text, row.requestId)
    | none => some (toLex (created, row.requestId))

/-- The same where there is one. -/
def sortKey (row : ScanRow) : String ×ₗ String := (dispatchOrderKey row).getD (toLex ("", ""))

/-! ### Pages -/

inductive ListError where
  /-- `ValueError`: a cursor without a dispatch time. -/
  | cursorUndefined
  /-- `OverflowError`: a time without a text. -/
  | timeOverflow
deriving Repr, DecidableEq

def dispatchOrdered (rows : List ScanRow) (newestFirst : Bool) (after : Option ScanRow) :
    Except ListError (List ScanRow) :=
  if (rows ++ after.toList).all fun row => (dispatchOrderKey row).isSome then
    let ordered := rows.mergeSort fun a b =>
      if newestFirst then decide (sortKey b ≤ sortKey a) else decide (sortKey a ≤ sortKey b)
    .ok (ordered.filter fun row => after.all fun cursor =>
      if newestFirst then decide (sortKey row < sortKey cursor) else decide (sortKey cursor < sortKey row))
  else .error .timeOverflow

def updateOrdered (rows : List ScanRow) (newestFirst : Bool) : List ScanRow :=
  let updateKey := fun row : ScanRow => toLex (row.updatedAt.instant, row.requestId)
  rows.mergeSort fun a b =>
    if newestFirst then decide (updateKey b ≤ updateKey a) else decide (updateKey a ≤ updateKey b)

/-- Whether a listing shows a row: its status is asked for, and nothing holds it. -/
def listed (table : ScanTable) (statuses : Option (List WorkflowStatus)) (dispatchableAt : Option AwareDatetime)
    (excludeRequestIds : List String) (row : ScanRow) : Bool :=
  (statuses.all fun asked => asked.contains row.status) &&
    ((dispatchableAt.isNone && excludeRequestIds.isEmpty) ||
      (row.heldReason (dispatchableAt.getD row.updatedAt) excludeRequestIds table.get?).isNone)

def listWorkflows (table : ScanTable) (statuses : Option (List WorkflowStatus)) (limit : Nat) (newestFirst : Bool)
    (dispatchableAt : Option AwareDatetime) (excludeRequestIds : List String) (after : Option ScanRow) :
    Except ListError (List ScanRow) :=
  if after.isSome && dispatchableAt.isNone then .error .cursorUndefined
  else
    let ordered := if dispatchableAt.isSome then dispatchOrdered table.rows newestFirst after
      else .ok (updateOrdered table.rows newestFirst)
    ordered.map fun rows => (rows.filter (listed table statuses dispatchableAt excludeRequestIds)).take limit

/-- Page after page of dispatch mode, each behind the last row of the one before, until one is empty. -/
def dispatchScan (table : ScanTable) (statuses : Option (List WorkflowStatus)) (limit : Nat)
    (dispatchableAt : AwareDatetime) (excludeRequestIds : List String) (fuel : Nat) : Option (List ScanRow) :=
  CursorPaging.scan (fun after =>
    (listWorkflows table statuses limit false (some dispatchableAt) excludeRequestIds after).toOption) fuel none

/-! ### The order of the texts -/

def instantText (instant : Nat) : String := String.ofList (IsoTime.isoText instant) ++ "Z"

section Texts

variable {value : AwareDatetime} {row : ScanRow} {instant instant' : Nat}

private theorem length_isoText (instant : Nat) : (IsoTime.isoText instant).length = 26 := by
  simp [IsoTime.isoText, IsoTime.fields, IsoTime.layout, IsoTime.render, IsoTime.length_digits]

private theorem toList_instantText (instant : Nat) :
    (instantText instant).toList = IsoTime.isoText instant ++ ['Z'] := by
  unfold instantText
  simp

private theorem instantText_lt (h' : instant' < IsoTime.instantEnd) (h : instant < instant') :
    instantText instant < instantText instant' := by
  have hlength : (IsoTime.isoText instant).length = (IsoTime.isoText instant').length := by
    rw [length_isoText, length_isoText]
  rw [String.lt_iff_toList_lt, toList_instantText, toList_instantText]
  exact IsoTime.append_lt_append _ _ hlength (IsoTime.isoText_lt h' h)

private theorem instantText_lt_iff (h : instant < IsoTime.instantEnd) (h' : instant' < IsoTime.instantEnd) :
    instantText instant < instantText instant' ↔ instant < instant' := by
  constructor
  · intro hlt
    rcases lt_trichotomy instant instant' with hless | heq | hmore
    · exact hless
    · rw [heq] at hlt
      exact absurd hlt (lt_irrefl _)
    · exact absurd (hlt.trans (instantText_lt h hmore)) (lt_irrefl _)
  · exact instantText_lt h'

private theorem instantText_inj (h : instant < IsoTime.instantEnd) (h' : instant' < IsoTime.instantEnd) :
    instantText instant = instantText instant' ↔ instant = instant' := by
  constructor
  · intro heq
    rcases lt_trichotomy instant instant' with hless | hsame | hmore
    · exact absurd heq (instantText_lt h' hless).ne
    · exact hsame
    · exact absurd heq.symm (instantText_lt h hmore).ne
  · exact congrArg instantText

private theorem instantText_mono (h' : instant' < IsoTime.instantEnd) (h : instant ≤ instant') :
    instantText instant ≤ instantText instant' := by
  rcases h.eq_or_lt with rfl | hlt
  · exact le_rfl
  · exact (instantText_lt h' hlt).le

private theorem inUtcRange_iff :
    value.inUtcRange = true ↔ 0 ≤ value.instant ∧ value.instant < IsoTime.instantEnd := by
  simp [AwareDatetime.inUtcRange]

private theorem jsonText_eq (h : value.inUtcRange = true) :
    value.jsonText = some (instantText value.instant.toNat) := by
  have hlength : value.utcIsoformat.length - 6 = (IsoTime.isoText value.instant.toNat).length := by
    simp [AwareDatetime.utcIsoformat]
  rw [AwareDatetime.jsonText, if_pos h, hlength, AwareDatetime.utcIsoformat, List.take_left]
  rfl

end Texts

/-! ### The order of the rows -/

/-- The later of `created_at` and `not_before`. -/
def laterInstant (row : ScanRow) : Int :=
  (row.notBefore.map fun time => max row.createdAt.instant time.instant).getD row.createdAt.instant

theorem dispatchEligibleAt_instant (row : ScanRow) : (dispatchEligibleAt row).instant = laterInstant row := by
  unfold dispatchEligibleAt laterInstant
  cases row.notBefore with
  | none => rfl
  | some time =>
    dsimp only [Option.map_some, Option.getD_some]
    split
    · rename_i hlater
      exact (max_eq_right hlater.le).symm
    · rename_i hearlier
      exact (max_eq_left (not_lt.mp hearlier)).symm

def ScanRow.InRange (row : ScanRow) : Prop :=
  row.createdAt.inUtcRange = true ∧ ∀ time ∈ row.notBefore, time.inUtcRange = true

def EligibleBefore (a b : ScanRow) : Prop :=
  laterInstant a < laterInstant b ∨ laterInstant a = laterInstant b ∧ a.requestId < b.requestId

section Rows

variable {row a b : ScanRow}

private theorem laterInstant_bounds (h : row.InRange) :
    0 ≤ laterInstant row ∧ laterInstant row < IsoTime.instantEnd := by
  obtain ⟨hcreated, htimes⟩ := h
  rw [inUtcRange_iff] at hcreated
  unfold laterInstant
  cases hnotBefore : row.notBefore with
  | none => exact hcreated
  | some time =>
    have htime := inUtcRange_iff.mp (htimes time hnotBefore)
    exact ⟨le_max_of_le_left hcreated.1, max_lt hcreated.2 htime.2⟩

private theorem dispatchOrderKey_eq (h : row.InRange) :
    dispatchOrderKey row = some (toLex (instantText (laterInstant row).toNat, row.requestId)) := by
  obtain ⟨hcreated, htimes⟩ := h
  unfold dispatchOrderKey laterInstant
  rw [jsonText_eq hcreated, Option.bind_some]
  cases hnotBefore : row.notBefore with
  | none => rfl
  | some time =>
    have htime := htimes time hnotBefore
    have hbound := inUtcRange_iff.mp hcreated
    have hbound' := inUtcRange_iff.mp htime
    dsimp only [Option.map_some, Option.getD_some]
    rw [jsonText_eq htime, Option.map_some]
    rcases le_total row.createdAt.instant time.instant with hle | hle
    · rw [max_eq_right hle, max_eq_right]
      exact instantText_mono (by omega) (Int.toNat_le_toNat hle)
    · rw [max_eq_left hle, max_eq_left]
      exact instantText_mono (by omega) (Int.toNat_le_toNat hle)

private theorem sortKey_lt_iff (ha : a.InRange) (hb : b.InRange) : sortKey a < sortKey b ↔ EligibleBefore a b := by
  obtain ⟨hnonneg, hend⟩ := laterInstant_bounds ha
  obtain ⟨hnonneg', hend'⟩ := laterInstant_bounds hb
  have hnat : (laterInstant a).toNat < IsoTime.instantEnd := by omega
  have hnat' : (laterInstant b).toNat < IsoTime.instantEnd := by omega
  unfold sortKey EligibleBefore
  rw [dispatchOrderKey_eq ha, dispatchOrderKey_eq hb, Option.getD_some, Option.getD_some, Prod.Lex.toLex_lt_toLex]
  dsimp only
  rw [instantText_lt_iff hnat hnat', instantText_inj hnat hnat']
  have hlt : (laterInstant a).toNat < (laterInstant b).toNat ↔ laterInstant a < laterInstant b := by omega
  have heq : (laterInstant a).toNat = (laterInstant b).toNat ↔ laterInstant a = laterInstant b := by omega
  rw [hlt, heq]

end Rows

/-! ### The scan -/

/-- The scan ends, and has visited the rows that pass the filters, each once and in the dispatch order. -/
def VisitsEveryRow (table : ScanTable) (statuses : Option (List WorkflowStatus)) (limit : Nat)
    (dispatchableAt : AwareDatetime) (excludeRequestIds : List String) : Prop :=
  ∃ visited, (∀ fuel, table.rows.length < fuel →
      dispatchScan table statuses limit dispatchableAt excludeRequestIds fuel = some visited) ∧
    visited.Nodup ∧
    (∀ row, row ∈ visited ↔ row ∈ table.rows ∧ (∀ asked ∈ statuses, row.status ∈ asked) ∧
      row.heldReason dispatchableAt excludeRequestIds table.get? = none) ∧
    visited.Pairwise EligibleBefore

section Scan

variable {table : ScanTable} {statuses : Option (List WorkflowStatus)} {limit : Nat} {dispatchableAt : AwareDatetime}
  {excludeRequestIds : List String} {after : Option ScanRow} {row : ScanRow}

def ScanTable.ordered (table : ScanTable) : List ScanRow :=
  table.rows.mergeSort fun a b => decide (sortKey a ≤ sortKey b)

private theorem mem_ordered : row ∈ table.ordered ↔ row ∈ table.rows := (List.mergeSort_perm _ _).mem_iff

private theorem ordered_pairwise (hrange : ∀ row ∈ table.rows, row.InRange) :
    table.ordered.Pairwise fun a b => sortKey a < sortKey b := by
  have hle : table.ordered.Pairwise fun a b => sortKey a ≤ sortKey b := by
    refine (List.pairwise_mergeSort (fun a b c hab hbc => ?_) (fun a b => ?_) table.rows).imp fun hab =>
      of_decide_eq_true hab
    · exact decide_eq_true ((of_decide_eq_true hab).trans (of_decide_eq_true hbc))
    · simpa using le_total (sortKey a) (sortKey b)
  have hids : (table.ordered.map ScanRow.requestId).Nodup :=
    ((List.mergeSort_perm _ _).map _).nodup_iff.mpr table.ids
  have hne : table.ordered.Pairwise fun a b => a.requestId ≠ b.requestId := List.pairwise_map.mp hids
  refine List.Pairwise.imp_of_mem (fun {a b} ha hb hab => ?_) (hle.and hne)
  refine lt_of_le_of_ne hab.1 fun heq => hab.2 ?_
  have hkey := dispatchOrderKey_eq (hrange a (mem_ordered.mp ha))
  have hkey' := dispatchOrderKey_eq (hrange b (mem_ordered.mp hb))
  unfold sortKey at heq
  rw [hkey, hkey', Option.getD_some, Option.getD_some] at heq
  exact congrArg (fun key => (ofLex key).2) heq

private theorem listed_iff : listed table statuses (some dispatchableAt) excludeRequestIds row = true ↔
    (∀ asked ∈ statuses, row.status ∈ asked) ∧ row.heldReason dispatchableAt excludeRequestIds table.get? = none := by
  cases statuses with
  | none => simp [listed]
  | some asked => simp [listed]

/-- A page of dispatch mode is the first rows behind the cursor of those that are listed. -/
private theorem listWorkflows_dispatch (hrange : ∀ row ∈ table.rows, row.InRange)
    (hafter : ∀ cursor ∈ after, cursor ∈ table.rows) :
    listWorkflows table statuses limit false (some dispatchableAt) excludeRequestIds after =
      .ok (CursorPaging.page sortKey
        (table.ordered.filter (listed table statuses (some dispatchableAt) excludeRequestIds)) limit after) := by
  have hkeys : ((table.rows ++ after.toList).all fun row => (dispatchOrderKey row).isSome) = true := by
    refine List.all_eq_true.mpr fun row hrow => ?_
    have hin : row ∈ table.rows := by
      rcases List.mem_append.mp hrow with hrow | hrow
      · exact hrow
      · exact hafter row (Option.mem_toList.mp hrow)
    rw [dispatchOrderKey_eq (hrange row hin)]
    rfl
  have hordered : dispatchOrdered table.rows false after = .ok (table.ordered.filter fun row =>
      after.all fun cursor => decide (sortKey cursor < sortKey row)) := by
    unfold dispatchOrdered
    rw [if_pos hkeys]
    rfl
  have hmode : (after.isSome && (some dispatchableAt).isNone) = false := by simp
  unfold listWorkflows
  rw [hmode]
  simp only [Bool.false_eq_true, if_false, Option.isSome_some, if_true, hordered, Except.map, CursorPaging.page]
  rw [List.filter_filter, List.filter_filter]
  simp only [Bool.and_comm]

end Scan

/-- Paging by the cursor visits every row that passes the filters once, in the order of the instants. -/
theorem dispatch_scan_visits_every_row (table : ScanTable) (statuses : Option (List WorkflowStatus)) (limit : Nat)
    (dispatchableAt : AwareDatetime) (excludeRequestIds : List String) (hlimit : 1 ≤ limit)
    (hrange : ∀ row ∈ table.rows, row.InRange) :
    VisitsEveryRow table statuses limit dispatchableAt excludeRequestIds := by
  have hsorted := (ordered_pairwise hrange).filter (listed table statuses (some dispatchableAt) excludeRequestIds)
  have hmem : ∀ row, row ∈ table.ordered.filter (listed table statuses (some dispatchableAt) excludeRequestIds) ↔
      row ∈ table.rows ∧ listed table statuses (some dispatchableAt) excludeRequestIds row = true := by
    intro row
    rw [List.mem_filter, mem_ordered]
  refine ⟨_, fun fuel hfuel => CursorPaging.scan_eq (fun after hafter => ?_) hsorted hlimit ?_, ?_, fun row => ?_, ?_⟩
  · rw [listWorkflows_dispatch hrange fun cursor hcursor => ((hmem cursor).mp (hafter cursor hcursor)).1]
    rfl
  · have hlength : table.ordered.length = table.rows.length := (List.mergeSort_perm _ _).length_eq
    have hshort := List.length_filter_le (listed table statuses (some dispatchableAt) excludeRequestIds) table.ordered
    omega
  · exact hsorted.imp fun hlt heq => absurd (heq ▸ hlt) (lt_irrefl _)
  · rw [hmem, listed_iff]
  · refine List.Pairwise.imp_of_mem (fun {a b} ha hb hlt => ?_) hsorted
    exact (sortKey_lt_iff (hrange a ((hmem a).mp ha).1) (hrange b ((hmem b).mp hb).1)).mp hlt

/-- 2026-09-07T06:00:00Z, and a microsecond later on a clock two hours ahead. -/
private def wholeSecond : AwareDatetime :=
  { wall := 63924357600000000
    utcoffset := 0
    wall_lt := by decide
    offset_lt := by decide }

private def laterEast : AwareDatetime :=
  { wall := 63924364800000001
    utcoffset := 7200000000
    wall_lt := by decide
    offset_lt := by decide }

private def twoRows : ScanTable :=
  { rows :=
      [{ requestId := "b", status := .pending, createdAt := laterEast, updatedAt := laterEast },
        { requestId := "a", status := .running, createdAt := wholeSecond, notBefore := some laterEast,
          updatedAt := wholeSecond }]
    ids := by decide }

theorem dispatch_scan_of_two_rows : VisitsEveryRow twoRows (some [.pending, .running]) 1 laterEast ["c"] := by
  refine dispatch_scan_visits_every_row twoRows _ 1 laterEast ["c"] le_rfl fun row hrow => ?_
  rcases List.mem_cons.mp hrow with rfl | hrow
  · exact ⟨by decide +kernel, fun time htime => nomatch htime⟩
  · rw [List.mem_singleton.mp hrow]
    refine ⟨by decide +kernel, fun time htime => ?_⟩
    cases htime
    decide +kernel

/-- The first hour of year 1 on a clock one hour ahead: in UTC it is in no year. -/
private def beforeYearOne : AwareDatetime :=
  { wall := 0
    utcoffset := 3600000000
    wall_lt := by decide
    offset_lt := by decide }

private def unwritableTable : ScanTable :=
  { rows := [{ requestId := "a", status := .pending, createdAt := beforeYearOne, updatedAt := beforeYearOne }]
    ids := by decide }

/-- A row with a time that cannot be written in UTC makes every page raise. -/
theorem unwritable_time_stops_scan : ¬ VisitsEveryRow unwritableTable none 1 wholeSecond [] := by
  rintro ⟨visited, hscan, -⟩
  have hraised : dispatchScan unwritableTable none 1 wholeSecond [] 2 = none := by decide +kernel
  rw [hscan 2 (by decide)] at hraised
  cases hraised

end GpuFaultRecovery
