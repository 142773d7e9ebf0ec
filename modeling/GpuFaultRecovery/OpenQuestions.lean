import GpuFaultRecovery.DeadlineWatchdog

/-!
# Questions that receipts leave open

Several commands can act on one step, and the receipts of a step are read onto its last record. A finished or
confirmed record is not rewritten: another command's receipt is then appended, but only if it is the newest unresolved
one. What the row shows in the end is told here from the row and the receipts before they are read.
-/

namespace GpuFaultRecovery

open ListEdits

/-! ### What receipts leave open -/

/-- A finished step, or one whose outcome an operator confirmed. -/
def WorkflowStepExecution.settled (record : WorkflowStepExecution) : Bool :=
  record.status == .succeeded || (operatorConfirmation record.details).isSome

/-- Whether a record is one of the step `key` names. -/
def recordOf (key : Option StepPhase × Nat × WorkflowOperation) (item : WorkflowStepExecution) : Bool :=
  executionMatchesStep item key.2.1 key.2.2 key.1

/-- The newest unresolved receipt names another command than `operationId`. -/
def AsksBeside (operationId : Option String) (receipts : List WorkflowStepExecution) : Prop :=
  ∃ receipt, newestSnapshot (receipts.filter unresolvedNodeAction) = some receipt ∧
    operationId ≠ receipt.adapterOperationId

/-- The receipt that speaks for a step carries an operator confirmation itself. -/
def receiptConfirmed (receipts : List WorkflowStepExecution) : Bool :=
  (speakingReceipt receipts).any fun receipt => (operatorConfirmation (Details.merge [] receipt.details)).isSome

/-- Receipts that are read one after the other onto an unsettled record leave its step open: the last ones do, or one
that carries a confirmation comes before an unresolved one of another command. -/
inductive ReadOpen (answers : List (List WorkflowStepExecution)) : Prop
  | lastReceipt {receipts : List WorkflowStepExecution} (hlast : answers.getLast? = some receipts)
      (hplain : ∀ receipts ∈ answers, receiptConfirmed receipts = false) (hopen : receiptInFlight receipts = true)
  | besideConfirmed {before after : List (List WorkflowStepExecution)} {receipts : List WorkflowStepExecution}
      {receipt : WorkflowStepExecution} (hanswers : answers = before ++ receipts :: after)
      (hplain : ∀ earlier ∈ before, receiptConfirmed earlier = false) (hconfirmed : receiptConfirmed receipts = true)
      (hspeaking : speakingReceipt receipts = some receipt)
      (hasks : ∃ later ∈ after, AsksBeside receipt.adapterOperationId later)

/-- A step stays open whose last record is `record` and onto which the receipts `answers` are read, in this order. -/
inductive StaysOpen (record : WorkflowStepExecution) (answers : List (List WorkflowStepExecution)) : Prop
  | unread (hunread : answers = []) (hopen : unresolvedNodeAction record = true)
  | besideSettled (hsettled : record.settled = true)
      (hasks : ∃ receipts ∈ answers, AsksBeside record.adapterOperationId receipts)
  | rewritten (hunsettled : record.settled = false) (hread : ReadOpen answers)

/-- The receipts that are read onto a record with the records `later` after it. -/
def answersTo (snapshots : List WorkflowStepExecution) (keys : List (Option StepPhase × Nat × WorkflowOperation))
    (record : WorkflowStepExecution) (later : List WorkflowStepExecution) : List (List WorkflowStepExecution) :=
  (keys.filter fun key => recordOf key record && later.all fun item => !recordOf key item).map (receiptsOf snapshots)

def PlaceOpen (snapshots : List WorkflowStepExecution) (keys : List (Option StepPhase × Nat × WorkflowOperation))
    (record : WorkflowStepExecution) (later : List WorkflowStepExecution) : Prop :=
  (∀ item ∈ later, item.identity ≠ record.identity) ∧ StaysOpen record (answersTo snapshots keys record later)

/-- An unresolved receipt of a step without a record, or a record that leaves its step open. -/
def LeftOpen (snapshots : List WorkflowStepExecution) (keys : List (Option StepPhase × Nat × WorkflowOperation))
    (executions : List WorkflowStepExecution) : Prop :=
  (∃ key ∈ keys, (∀ item ∈ executions, recordOf key item = false) ∧
      (receiptsOf snapshots key).filter unresolvedNodeAction ≠ []) ∨
    Somewhere (PlaceOpen snapshots keys) executions

/-! ### One record and its receipts -/

section Record

variable {record snapshot : WorkflowStepExecution} {receipts unresolved : List WorkflowStepExecution}
  {rest : List (List WorkflowStepExecution)}

private theorem settled_resolved (h : record.settled = true) : unresolvedNodeAction record = false := by
  rw [WorkflowStepExecution.settled, Bool.or_eq_true] at h
  unfold unresolvedNodeAction
  rcases h with h | h
  · simp [h]
  · simp [unresolvedDetails, h]

private theorem ne_succeeded_of_settled_eq_false (h : record.settled = false) : record.status ≠ .succeeded := by
  rw [WorkflowStepExecution.settled, Bool.or_eq_false_iff] at h
  exact beq_eq_false_iff_ne.mp h.1

private theorem settled_refreshedRecord (h : record.settled = false)
    (hspeaking : speakingReceipt receipts = some snapshot) :
    (refreshedRecord record snapshot unresolved).settled = receiptConfirmed receipts := by
  have hstatus : ((refreshedRecord record snapshot unresolved).status == .succeeded) = false :=
    beq_eq_false_iff_ne.mpr (refreshedRecord_ne_succeeded (ne_succeeded_of_settled_eq_false h))
  rw [WorkflowStepExecution.settled, hstatus, Bool.false_or, receiptConfirmed, hspeaking, Option.any_some,
    operatorConfirmation, operatorConfirmation, get?_refreshedRecord (by simp [uncertaintyKeys])]

private theorem open_refreshedRecord (h : record.settled = false)
    (hspeaking : speakingReceipt receipts = some snapshot) (hoperation : record.operation = snapshot.operation) :
    unresolvedNodeAction (refreshedRecord record snapshot unresolved) = receiptInFlight receipts := by
  rw [unresolved_refreshedRecord (ne_succeeded_of_settled_eq_false h) hoperation, receiptInFlight, hspeaking]
  rfl

private theorem staysOpen_nil : StaysOpen record [] ↔ unresolvedNodeAction record = true := by
  constructor
  · rintro (⟨-, hopen⟩ | ⟨-, receipts, hmem, -⟩ | ⟨-, ⟨hlast, -, -⟩ | ⟨hanswers, -, -, -, -⟩⟩)
    · exact hopen
    · cases hmem
    · cases hlast
    · simp at hanswers
  · exact .unread rfl

private theorem staysOpen_of_settled {answers : List (List WorkflowStepExecution)} (h : record.settled = true) :
    StaysOpen record answers ↔ ∃ receipts ∈ answers, AsksBeside record.adapterOperationId receipts := by
  constructor
  · rintro (⟨-, hopen⟩ | ⟨-, hasks⟩ | ⟨hunsettled, -⟩)
    · rw [settled_resolved h] at hopen
      cases hopen
    · exact hasks
    · rw [h] at hunsettled
      cases hunsettled
  · exact .besideSettled h

private theorem staysOpen_of_unsettled {answers : List (List WorkflowStepExecution)} (h : record.settled = false)
    (hanswers : answers ≠ []) : StaysOpen record answers ↔ ReadOpen answers := by
  constructor
  · rintro (⟨hunread, -⟩ | ⟨hsettled, -⟩ | ⟨-, hread⟩)
    · exact absurd hunread hanswers
    · rw [h] at hsettled
      cases hsettled
    · exact hread
  · exact .rewritten h

/-- After a receipt with a confirmation, only another command's receipt asks again. -/
private theorem readOpen_confirmed (hconfirmed : receiptConfirmed receipts = true)
    (hspeaking : speakingReceipt receipts = some snapshot) :
    ReadOpen (receipts :: rest) ↔ ∃ later ∈ rest, AsksBeside snapshot.adapterOperationId later := by
  constructor
  · rintro (⟨-, hplain, -⟩ | ⟨hanswers, hplain, -, hspeaking', hasks⟩)
    · rw [hplain receipts (by simp)] at hconfirmed
      cases hconfirmed
    · rename_i before after answer receipt
      cases before with
      | nil =>
        obtain ⟨rfl, rfl⟩ := List.cons.inj hanswers
        cases Option.some.inj (hspeaking.symm.trans hspeaking')
        exact hasks
      | cons earlier before =>
        obtain ⟨rfl, -⟩ := List.cons.inj hanswers
        rw [hplain receipts (by simp)] at hconfirmed
        cases hconfirmed
  · intro hasks
    exact .besideConfirmed (List.nil_append _).symm (by simp) hconfirmed hspeaking hasks

private theorem readOpen_singleton (hplain : receiptConfirmed receipts = false) :
    ReadOpen [receipts] ↔ receiptInFlight receipts = true := by
  constructor
  · rintro (⟨hlast, -, hopen⟩ | ⟨hanswers, -, -, -, hasks⟩)
    · cases hlast
      exact hopen
    · rename_i before after answer receipt
      obtain ⟨later, hlater, -⟩ := hasks
      have hlength := congrArg List.length hanswers
      have hpos := List.length_pos_of_mem hlater
      simp only [List.length_append, List.length_cons, List.length_nil] at hlength
      omega
  · intro hopen
    exact .lastReceipt rfl (by simpa using hplain) hopen

/-- A receipt without a confirmation is forgotten when another one is read onto its record. -/
private theorem readOpen_cons (hplain : receiptConfirmed receipts = false) (hrest : rest ≠ []) :
    ReadOpen (receipts :: rest) ↔ ReadOpen rest := by
  have hlast' : (receipts :: rest).getLast? = rest.getLast? := by
    cases rest with
    | nil => exact absurd rfl hrest
    | cons next rest => rfl
  constructor
  · rintro (⟨hlast, hall, hopen⟩ | ⟨hanswers, hbefore, hconfirmed, hspeaking, hasks⟩)
    · exact .lastReceipt (hlast' ▸ hlast) (fun answer hmem => hall answer (by simp [hmem])) hopen
    · rename_i before after answer receipt
      cases before with
      | nil =>
        obtain ⟨rfl, -⟩ := List.cons.inj hanswers
        rw [hplain] at hconfirmed
        cases hconfirmed
      | cons earlier before =>
        obtain ⟨-, rfl⟩ := List.cons.inj hanswers
        exact .besideConfirmed rfl (fun answer hmem => hbefore answer (by simp [hmem])) hconfirmed hspeaking hasks
  · rintro (⟨hlast, hall, hopen⟩ | ⟨rfl, hbefore, hconfirmed, hspeaking, hasks⟩)
    · exact .lastReceipt (hlast'.trans hlast) (by simpa [hplain] using hall) hopen
    · rename_i before after answer receipt
      exact .besideConfirmed (List.cons_append ..).symm (by simpa [hplain] using hbefore) hconfirmed hspeaking hasks

private theorem staysOpen_rewritten (h : record.settled = false)
    (hspeaking : speakingReceipt receipts = some snapshot) (hoperation : record.operation = snapshot.operation) :
    StaysOpen record (receipts :: rest) ↔ StaysOpen (refreshedRecord record snapshot unresolved) rest := by
  have hsettled : (refreshedRecord record snapshot unresolved).settled = receiptConfirmed receipts :=
    settled_refreshedRecord h hspeaking
  have hopen : unresolvedNodeAction (refreshedRecord record snapshot unresolved) = receiptInFlight receipts :=
    open_refreshedRecord h hspeaking hoperation
  rw [staysOpen_of_unsettled h (by simp)]
  by_cases hconfirmed : receiptConfirmed receipts = true
  · rw [readOpen_confirmed hconfirmed hspeaking, staysOpen_of_settled (hsettled.trans hconfirmed)]
    rfl
  · rw [Bool.not_eq_true] at hconfirmed
    by_cases hrest : rest = []
    · subst hrest
      rw [readOpen_singleton hconfirmed, staysOpen_nil, hopen]
    · rw [readOpen_cons hconfirmed hrest, staysOpen_of_unsettled (hsettled.trans hconfirmed) hrest]

end Record

/-! ### The receipts of one step -/

section Step

variable {snapshots executions front back later later' : List WorkflowStepExecution}
  {keys : List (Option StepPhase × Nat × WorkflowOperation)} {key : Option StepPhase × Nat × WorkflowOperation}
  {record record' snapshot item : WorkflowStepExecution}

private theorem recordOf_congr (h : item.identity = record.identity) : recordOf key item = recordOf key record := by
  simp only [WorkflowStepExecution.identity, Prod.mk.injEq] at h
  simp only [recordOf, executionMatchesStep, h.1, h.2.1, h.2.2]

private theorem recordOf_identity (hphase : record.phase.isSome) (hkey : key.1.isSome) :
    recordOf key record = true ↔ record.identity = key := by
  cases hp : record.phase with
  | none => rw [hp] at hphase; cases hphase
  | some phase =>
    obtain ⟨phase', index, operation⟩ := key
    cases phase' with
    | none => cases hkey
    | some phase' =>
      simp [recordOf, executionMatchesStep, WorkflowStepExecution.identity, hp]
      tauto

private theorem answersTo_cons_of_pos (h : recordOf key record = true)
    (hlater : ∀ item ∈ later, recordOf key item = false) :
    answersTo snapshots (key :: keys) record later =
      receiptsOf snapshots key :: answersTo snapshots keys record later := by
  have hall : (later.all fun item => !recordOf key item) = true := by simpa using hlater
  rw [answersTo, List.filter_cons_of_pos (by rw [h, hall]; rfl), List.map_cons]
  rfl

private theorem answersTo_cons_of_neg (h : recordOf key record = true → ∃ item ∈ later, recordOf key item = true) :
    answersTo snapshots (key :: keys) record later = answersTo snapshots keys record later := by
  rw [answersTo, List.filter_cons_of_neg]
  · rfl
  · intro hread
    rw [Bool.and_eq_true] at hread
    obtain ⟨item, hitem, hsame⟩ := h hread.1
    have hnot := List.all_eq_true.mp hread.2 item hitem
    rw [hsame] at hnot
    cases hnot

private theorem answersTo_congr (hrecord : record'.identity = record.identity)
    (hlater : later'.map WorkflowStepExecution.identity = later.map WorkflowStepExecution.identity) :
    answersTo snapshots keys record' later' = answersTo snapshots keys record later := by
  have hall : ∀ key, (later'.all fun item => !recordOf key item) = later.all fun item => !recordOf key item := by
    intro key
    have hname : ∀ l : List WorkflowStepExecution, (l.all fun item => !recordOf key item) =
        (l.map WorkflowStepExecution.identity).all fun name =>
          !(name.2.1 == key.2.1 && name.2.2 == key.2.2 && (key.1.isNone || name.1.isNone || name.1 == key.1)) := by
      intro l
      rw [List.all_map]
      rfl
    rw [hname, hname, hlater]
  unfold answersTo
  congr 1
  exact List.filter_congr fun key _ => by rw [hall key, recordOf_congr hrecord]

private theorem placeOpen_congr
    (hlater : later'.map WorkflowStepExecution.identity = later.map WorkflowStepExecution.identity) :
    PlaceOpen snapshots keys record later' ↔ PlaceOpen snapshots keys record later := by
  have hnames :
      (∀ item ∈ later', item.identity ≠ record.identity) ↔ ∀ item ∈ later, item.identity ≠ record.identity := by
    have hmem : record.identity ∈ later'.map WorkflowStepExecution.identity ↔
        record.identity ∈ later.map WorkflowStepExecution.identity := by rw [hlater]
    simpa [List.mem_map, eq_comm] using not_congr hmem
  unfold PlaceOpen
  rw [hnames, answersTo_congr rfl hlater]

private theorem leftOpen_appended (hkeys : ∀ key ∈ keys, key.1.isSome) (hphase : snapshot.phase.isSome)
    (hnot : snapshot.identity ∉ keys) (hopen : unresolvedNodeAction snapshot = true) :
    LeftOpen snapshots keys (executions ++ [snapshot]) := by
  refine .inr ((somewhere_append _ _).mpr (.inr (.inl ⟨by simp, .unread ?_ hopen⟩)))
  rw [answersTo, List.map_eq_nil_iff, List.filter_eq_nil_iff]
  intro key hkey hread
  rw [Bool.and_eq_true, recordOf_identity hphase (hkeys key hkey)] at hread
  exact hnot (hread.1 ▸ hkey)

/-- The receipts of a step are read onto its last record, and onto no other one. -/
private theorem leftOpen_answered (hidentity : record'.identity = record.identity)
    (hrecord : recordOf key record = true) (hback : ∀ item ∈ back, recordOf key item = false)
    (hanswer : StaysOpen record' (answersTo snapshots keys record back) ↔
      StaysOpen record (receiptsOf snapshots key :: answersTo snapshots keys record back)) :
    LeftOpen snapshots keys (front ++ record' :: back) ↔
      LeftOpen snapshots (key :: keys) (front ++ record :: back) := by
  have hsame : ∀ other, (∀ item ∈ front ++ record' :: back, recordOf other item = false) ↔
      ∀ item ∈ front ++ record :: back, recordOf other item = false := by
    intro other
    rw [List.forall_mem_append, List.forall_mem_append, List.forall_mem_cons, List.forall_mem_cons,
      recordOf_congr hidentity]
  have hbare : (∃ other ∈ keys, (∀ item ∈ front ++ record' :: back, recordOf other item = false) ∧
        (receiptsOf snapshots other).filter unresolvedNodeAction ≠ []) ↔
      ∃ other ∈ key :: keys, (∀ item ∈ front ++ record :: back, recordOf other item = false) ∧
        (receiptsOf snapshots other).filter unresolvedNodeAction ≠ [] := by
    simp only [hsame]
    rw [List.exists_mem_cons_iff, or_iff_right]
    rintro ⟨hnone, -⟩
    rw [hnone record (by simp)] at hrecord
    cases hrecord
  have hfront : Somewhere (fun item rest => PlaceOpen snapshots keys item (rest ++ record' :: back)) front ↔
      Somewhere (fun item rest => PlaceOpen snapshots (key :: keys) item (rest ++ record :: back)) front := by
    refine somewhere_congr fun _ item rest _ => ?_
    have hnames : (rest ++ record' :: back).map WorkflowStepExecution.identity =
        (rest ++ record :: back).map WorkflowStepExecution.identity := by simp [hidentity]
    rw [placeOpen_congr hnames, PlaceOpen, PlaceOpen, answersTo_cons_of_neg fun _ => ⟨record, by simp, hrecord⟩]
  have hown : PlaceOpen snapshots keys record' back ↔ PlaceOpen snapshots (key :: keys) record back := by
    rw [PlaceOpen, PlaceOpen, hidentity, answersTo_congr hidentity rfl, answersTo_cons_of_pos hrecord hback, hanswer]
  have hrest : Somewhere (PlaceOpen snapshots keys) back ↔ Somewhere (PlaceOpen snapshots (key :: keys)) back := by
    refine somewhere_congr fun _ item rest hsplit => ?_
    have hitem := hback item (by simp [hsplit])
    rw [PlaceOpen, PlaceOpen, answersTo_cons_of_neg fun h => absurd (hitem.symm.trans h) (by simp)]
  unfold LeftOpen
  rw [hbare, somewhere_append, somewhere_append, Somewhere, Somewhere, hfront, hown, hrest]

private theorem speakingReceipt_unresolved {receipts : List WorkflowStepExecution}
    (h : receipts.filter unresolvedNodeAction ≠ []) :
    speakingReceipt receipts = newestSnapshot (receipts.filter unresolvedNodeAction) := by
  unfold speakingReceipt
  dsimp only
  rw [List.isEmpty_eq_false_iff.mpr h]
  rfl

private theorem speakingReceipt_isSome {receipts : List WorkflowStepExecution} (h : receipts ≠ []) :
    ∃ snapshot, speakingReceipt receipts = some snapshot := by
  have hsome : ∀ l : List WorkflowStepExecution, l ≠ [] → ∃ snapshot, newestSnapshot l = some snapshot := by
    intro l hl
    cases l with
    | nil => exact absurd rfl hl
    | cons first l => exact ⟨_, rfl⟩
  by_cases hopen : receipts.filter unresolvedNodeAction = []
  · have hspeaking : speakingReceipt receipts = newestSnapshot receipts := by
      rw [speakingReceipt, hopen]
      rfl
    rw [hspeaking]
    exact hsome receipts h
  · rw [speakingReceipt_unresolved hopen]
    exact hsome _ hopen

private theorem speakingReceipt_open {receipts : List WorkflowStepExecution}
    (h : receipts.filter unresolvedNodeAction ≠ []) (hspeaking : speakingReceipt receipts = some snapshot) :
    unresolvedNodeAction snapshot = true := by
  rw [speakingReceipt_unresolved h] at hspeaking
  exact (List.mem_filter.mp (newestSnapshot_mem hspeaking)).2

section Read

variable (hkeys : ∀ key ∈ keys, key.1.isSome) (hkey : key.1.isSome) (hnot : key ∉ keys)
  (hspeaking : speakingReceipt (receiptsOf snapshots key) = some snapshot)

include hspeaking in
private theorem recordOf_eq_sameStep : sameStep snapshot = recordOf key := by
  obtain rfl := receiptsOf_identity snapshots key snapshot (speakingReceipt_mem hspeaking)
  rfl

include hkeys hkey hnot hspeaking in
private theorem leftOpen_receipt (hopen : (receiptsOf snapshots key).filter unresolvedNodeAction ≠ []) :
    LeftOpen snapshots keys (executions ++ [snapshot]) := by
  have hidentity := receiptsOf_identity snapshots key snapshot (speakingReceipt_mem hspeaking)
  have hphase : snapshot.phase.isSome := by
    rw [show snapshot.phase = key.1 from congrArg Prod.fst hidentity]
    exact hkey
  exact leftOpen_appended hkeys hphase (hidentity ▸ hnot) (speakingReceipt_open hopen hspeaking)

include hkeys hkey hnot hspeaking in
private theorem leftOpen_unmatched (hnone : ∀ item ∈ executions, recordOf key item = false) :
    LeftOpen snapshots keys (refreshStep executions (receiptsOf snapshots key)) ↔
      LeftOpen snapshots (key :: keys) executions := by
  rw [refreshStep_unmatched hspeaking (recordOf_eq_sameStep hspeaking ▸ hnone)]
  by_cases hopen : (receiptsOf snapshots key).filter unresolvedNodeAction = []
  · have hplaces : Somewhere (PlaceOpen snapshots keys) executions ↔
        Somewhere (PlaceOpen snapshots (key :: keys)) executions := by
      refine somewhere_congr fun _ item rest hsplit => ?_
      have hitem := hnone item (by simp [hsplit])
      rw [PlaceOpen, PlaceOpen, answersTo_cons_of_neg fun h => absurd (hitem.symm.trans h) (by simp)]
    rw [hopen, List.isEmpty_nil, if_pos rfl, List.append_nil, LeftOpen, LeftOpen, hplaces,
      List.exists_mem_cons_iff, or_assoc, iff_comm, or_iff_right fun hbare => hbare.2 hopen]
  · rw [List.isEmpty_eq_false_iff.mpr hopen]
    exact iff_of_true (leftOpen_receipt hkeys hkey hnot hspeaking hopen) (.inl ⟨key, by simp, hnone, hopen⟩)

include hkeys hkey hnot hspeaking in
/-- The receipts of a step with a record. -/
private theorem leftOpen_matched (hrecord : recordOf key record = true)
    (hback : ∀ item ∈ back, recordOf key item = false) :
    LeftOpen snapshots keys (refreshStep (front ++ record :: back) (receiptsOf snapshots key)) ↔
      LeftOpen snapshots (key :: keys) (front ++ record :: back) := by
  have hoperation : record.operation = snapshot.operation := by
    have hsame : sameStep snapshot record = true := by rw [recordOf_eq_sameStep hspeaking, hrecord]
    simp only [sameStep, executionMatchesStep, Bool.and_eq_true, beq_iff_eq] at hsame
    exact hsame.1.2
  rw [refreshStep_matched hspeaking (recordOf_eq_sameStep hspeaking ▸ hrecord)
    (recordOf_eq_sameStep hspeaking ▸ hback)]
  unfold answeredRecord
  by_cases hsettled : record.settled = true
  · rw [if_pos (by simpa only [WorkflowStepExecution.settled] using hsettled)]
    dsimp only
    by_cases hasks : AsksBeside record.adapterOperationId (receiptsOf snapshots key)
    · -- the receipt of another command is appended
      obtain ⟨receipt, hnewest, hne⟩ := hasks
      have hopen : (receiptsOf snapshots key).filter unresolvedNodeAction ≠ [] := by
        intro hnil
        rw [hnil] at hnewest
        cases hnewest
      obtain rfl := Option.some.inj (hspeaking.symm.trans ((speakingReceipt_unresolved hopen).trans hnewest))
      rw [List.isEmpty_eq_false_iff.mpr hopen, if_pos (by simpa using hne)]
      refine iff_of_true (leftOpen_receipt hkeys hkey hnot hspeaking hopen) (.inr ?_)
      refine (somewhere_append _ _).mpr (.inr (.inl ⟨fun item hitem hsame => ?_, ?_⟩))
      · have hfalse := hback item hitem
        rw [recordOf_congr hsame, hrecord] at hfalse
        cases hfalse
      · rw [answersTo_cons_of_pos hrecord hback]
        exact .besideSettled hsettled ⟨_, by simp, snapshot, hnewest, hne⟩
    · have hquiet : ¬((!((receiptsOf snapshots key).filter unresolvedNodeAction).isEmpty &&
          record.adapterOperationId != snapshot.adapterOperationId) = true) := by
        intro h
        rw [Bool.and_eq_true, Bool.not_eq_true', List.isEmpty_eq_false_iff, bne_iff_ne] at h
        exact hasks ⟨snapshot, (speakingReceipt_unresolved h.1).symm.trans hspeaking, h.2⟩
      rw [if_neg hquiet, List.append_nil]
      refine leftOpen_answered rfl hrecord hback ?_
      rw [staysOpen_of_settled hsettled, staysOpen_of_settled hsettled]
      simp [hasks]
  · rw [if_neg (by simpa only [WorkflowStepExecution.settled] using hsettled)]
    rw [Bool.not_eq_true] at hsettled
    dsimp only
    rw [List.append_nil]
    exact leftOpen_answered rfl hrecord hback (staysOpen_rewritten hsettled hspeaking hoperation).symm

end Read

private theorem leftOpen_refreshStep (hkeys : ∀ key ∈ keys, key.1.isSome) (hkey : key.1.isSome) (hnot : key ∉ keys)
    (hreceipts : receiptsOf snapshots key ≠ []) :
    LeftOpen snapshots keys (refreshStep executions (receiptsOf snapshots key)) ↔
      LeftOpen snapshots (key :: keys) executions := by
  obtain ⟨snapshot, hspeaking⟩ := speakingReceipt_isSome hreceipts
  rcases none_or_last (recordOf key) executions with hnone | ⟨front, record, back, rfl, hrecord, hback⟩
  · exact leftOpen_unmatched hkeys hkey hnot hspeaking hnone
  · exact leftOpen_matched hkeys hkey hnot hspeaking hrecord hback

end Step

/-! ### The receipts of a row -/

section Row

variable {snapshots executions : List WorkflowStepExecution}
  {keys : List (Option StepPhase × Nat × WorkflowOperation)} {workflow : WorkflowRequest}

/-- Without receipts a row shows what its last records show. -/
private theorem leftOpen_unread :
    LeftOpen snapshots [] workflow.stepExecutions ↔ hasUnresolvedNodeAction workflow true = true := by
  have hplaces : ∀ executions : List WorkflowStepExecution, Somewhere (PlaceOpen snapshots []) executions ↔
      ∃ item, (recordsOf executions item.identity).getLast? = some item ∧ unresolvedNodeAction item = true := by
    intro executions
    rw [somewhere_iff]
    constructor
    · rintro ⟨front, item, back, rfl, hlater, hopen⟩
      refine ⟨item, ?_, staysOpen_nil.mp hopen⟩
      have hback : recordsOf back item.identity = [] :=
        List.filter_eq_nil_iff.mpr fun later hmem => by simpa using hlater later hmem
      rw [recordsOf] at hback ⊢
      rw [List.filter_append, List.filter_cons_of_pos (by simp), hback]
      simp
    · rintro ⟨item, hlast, hopen⟩
      rcases none_or_last (fun later => later.identity == item.identity) executions with
        hnone | ⟨front, last, back, rfl, hsame, hback⟩
      · rw [recordsOf, List.filter_eq_nil_iff.mpr fun later hmem => by simp [hnone later hmem]] at hlast
        cases hlast
      · have hnone : back.filter (fun later => later.identity == item.identity) = [] :=
          List.filter_eq_nil_iff.mpr fun later hmem => by simp [hback later hmem]
        rw [recordsOf, List.filter_append, List.filter_cons, if_pos hsame, hnone] at hlast
        simp only [List.getLast?_append, List.getLast?_singleton, Option.some_or, Option.some.injEq] at hlast
        subst hlast
        exact ⟨front, last, back, rfl, fun later hmem => by simpa using hback later hmem, staysOpen_nil.mpr hopen⟩
  rw [hasUnresolvedNodeAction_iff, ← hplaces]
  simp [LeftOpen]

private theorem unresolved_refreshSteps (hkeys : ∀ key ∈ keys, key.1.isSome) (hnodup : keys.Nodup)
    (hreceipts : ∀ key ∈ keys, receiptsOf snapshots key ≠ []) :
    hasUnresolvedNodeAction { workflow with stepExecutions := refreshSteps snapshots keys executions } true = true ↔
      LeftOpen snapshots keys executions := by
  induction keys generalizing executions with
  | nil => exact leftOpen_unread.symm
  | cons key keys ih =>
    rw [List.forall_mem_cons] at hkeys hreceipts
    rw [List.nodup_cons] at hnodup
    rw [← leftOpen_refreshStep hkeys.2 hkeys.1 hnodup.1 hreceipts.1]
    exact ih hkeys.2 hnodup.2 hreceipts.2

private theorem unresolved_refreshRemoteActionState (workflow : WorkflowRequest) (commands : List MintedFrom) :
    hasUnresolvedNodeAction (refreshRemoteActionState commands workflow) true = true ↔
      LeftOpen (remoteSnapshots workflow commands) (receiptIdentities (remoteSnapshots workflow commands))
        workflow.stepExecutions := by
  have hmem : ∀ key ∈ receiptIdentities (remoteSnapshots workflow commands),
      ∃ snapshot ∈ remoteSnapshots workflow commands, snapshot.identity = key := by
    intro key hkey
    rw [receiptIdentities, List.mem_eraseDups] at hkey
    exact List.mem_map.mp hkey
  refine unresolved_refreshSteps (fun key hkey => ?_) (nodup_eraseDups _) fun key hkey hnil => ?_
  · obtain ⟨snapshot, hsnapshot, rfl⟩ := hmem key hkey
    exact phase_of_mem_remoteSnapshots hsnapshot
  · obtain ⟨snapshot, hsnapshot, rfl⟩ := hmem key hkey
    exact List.filter_eq_nil_iff.mp hnil snapshot hsnapshot (by simp)

end Row

/-! ### Another command -/

def MintedFrom.steps (command : MintedFrom) : List (Nat × WorkflowStepSpec) :=
  (command.stepIndex, command.step) :: command.batchedSteps.map fun item => (item.stepIndex, item.step)

def latestRecord? (workflow : WorkflowRequest) (snapshot : WorkflowStepExecution) : Option WorkflowStepExecution :=
  (workflow.stepExecutions.filter (sameStep snapshot)).getLast?

/-- A command has an unresolved receipt of a node mutation, and the last record of the step does not name it. -/
def AsksUnnamed (workflow : WorkflowRequest) (command : MintedFrom) : Prop :=
  ∃ index step snapshot, (index, step) ∈ command.steps ∧ step.operation.nodeMutating = true ∧
    remoteStepExecution command index step = some snapshot ∧ unresolvedNodeAction snapshot = true ∧
    ∀ record, latestRecord? workflow snapshot = some record →
      record.adapterOperationId ≠ some ("remote/" ++ command.commandId)

/-- A command that the last record of its step does not name shows on the refreshed row exactly if the row and its
receipts leave some step open: the settled records hide what their own receipts outrun. -/
theorem unnamed_command_shows_iff (workflow : WorkflowRequest) (commands : List MintedFrom) :
    (∀ command ∈ commands, AsksUnnamed workflow command →
        hasUnresolvedNodeAction (refreshRemoteActionState commands workflow) true = true) ↔
      ((∃ command ∈ commands, AsksUnnamed workflow command) →
        LeftOpen (remoteSnapshots workflow commands) (receiptIdentities (remoteSnapshots workflow commands))
          workflow.stepExecutions) := by
  rw [← unresolved_refreshRemoteActionState]
  constructor
  · rintro h ⟨command, hcommand, hasks⟩
    exact h command hcommand hasks
  · intro h command hcommand hasks
    exact h ⟨command, hcommand, hasks⟩

/-- A row whose reboot an operator confirmed: the command `second` may have done it. -/
private def confirmedReboot : WorkflowRequest :=
  let confirmation : Details :=
    [("actor", .str "operator"), ("reference", .str "change-1"), ("confirmed_at", .str "2026-09-28T00:00:00Z"),
      ("node_id", .str "node-a"), ("operation", .str "RESTART_NODE")]
  { requestId := "workflow"
    status := .blocked
    fencingToken := 2
    officialSteps := [{ operation := .restartNode }]
    stepExecutions :=
      [{ stepIndex := 0
         operation := .restartNode
         status := .failed
         phase := some .official
         adapterOperationId := some "remote/second"
         details := [("outcome_unknown", .bool false), ("operator_confirmed", .obj confirmation)] }] }

/-- A command of the row that was cancelled while it ran. -/
private def cancelledReboot (commandId : String) (generation : Nat) : MintedFrom :=
  { commandId
    clusterId := "cluster"
    workflowRequestId := "workflow"
    fencingToken := generation
    step := { operation := .restartNode }
    status := .failed
    statusSource := some "workflow-timeout"
    lastLeaseOwner := some "executor"
    updatedAt := generation
    workflow := confirmedReboot }

/-- The receipt of the confirmed command is the newest unresolved one, so the other reboot is not recorded. -/
theorem confirmed_reboot_hides_first :
    ¬ ∀ workflow commands, ∀ command ∈ commands, AsksUnnamed workflow command →
      hasUnresolvedNodeAction (refreshRemoteActionState commands workflow) true = true := by
  intro h
  have hlatest : ∀ record ∈ confirmedReboot.stepExecutions,
      record.adapterOperationId ≠ some ("remote/" ++ (cancelledReboot "first" 1).commandId) := by
    decide +kernel
  obtain ⟨snapshot, hsnapshot⟩ := Option.isSome_iff_exists.mp
    (show (remoteStepExecution (cancelledReboot "first" 1) 0 { operation := .restartNode }).isSome by decide +kernel)
  have hopen : (remoteStepExecution (cancelledReboot "first" 1) 0 { operation := .restartNode }).any
      unresolvedNodeAction = true := by
    decide +kernel
  rw [hsnapshot] at hopen
  have hasks : AsksUnnamed confirmedReboot (cancelledReboot "first" 1) := by
    refine ⟨0, { operation := .restartNode }, snapshot,
      by decide, by decide, hsnapshot, hopen, fun record hrecord => ?_⟩
    exact hlatest record (List.mem_filter.mp (List.mem_of_getLast? hrecord)).1
  have hshows := h confirmedReboot [cancelledReboot "first" 1, cancelledReboot "second" 2] _ (by simp) hasks
  have hhidden : hasUnresolvedNodeAction (refreshRemoteActionState
      [cancelledReboot "first" 1, cancelledReboot "second" 2] confirmedReboot) true = false := by
    decide +kernel
  rw [hhidden] at hshows
  cases hshows

end GpuFaultRecovery
