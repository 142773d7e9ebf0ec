import GpuFaultRecovery.Run
import GpuFaultRecovery.WorkflowInvariants

/-!
# What a bounded history says

The audit events of a record are kept within a budget: over it, the events the workflow opened with and the most
recent ones stay, and a marker at the seam counts the others. However many events are appended, the history is the
appended list with one stretch in the middle replaced by the marker of that stretch.
-/

namespace GpuFaultRecovery

def WorkflowEvent.isMarker (event : WorkflowEvent) : Bool := event.kind == .historyTruncated

def droppedCount (history : List WorkflowEvent) : Int :=
  ((history.filter WorkflowEvent.isMarker).map WorkflowEvent.droppedEvents).sum

/-- The events kept from the start of a history. -/
def openingBudget : Nat := workflowEventsLimit / 5

/-- The events kept from its end; one entry is left for the marker. -/
def recentBudget : Nat := workflowEventsLimit - openingBudget - 1

def Chronological (events : List WorkflowEvent) : Prop := events.Pairwise fun earlier later =>
  earlier.recordedAt ≤ later.recordedAt

/-- What a history says about the events that were appended to it. -/
structure HistoryAccounts (appended history : List WorkflowEvent) : Prop where
  bounded : history.length ≤ workflowEventsLimit
  oneMarker : (history.filter WorkflowEvent.isMarker).length ≤ 1
  accounted : droppedCount history + (history.filter fun item => !item.isMarker).length = appended.length
  opening : appended.take openingBudget <+: history
  recent : appended.drop (appended.length - recentBudget) <:+ history
  ordered : (history.filter fun item => !item.isMarker).Sublist appended
  newest : history.getLast? = appended.getLast?
  chronological : Chronological appended → Chronological history

/-- A marker of `count` events, the last of them at `last`. -/
structure Marks (marker : WorkflowEvent) (count : Nat) (last : Time) : Prop where
  kind : marker.isMarker = true
  dropped : marker.details.get? "dropped" = some (.int count)
  recordedAt : marker.recordedAt = last

/-- The history is what was appended, with a stretch behind the opening events replaced by its marker. -/
def Shortened (appended history : List WorkflowEvent) : Prop :=
  ∃ head lost last tail marker, appended = head ++ (lost ++ [last]) ++ tail ∧ history = head ++ marker :: tail ∧
    head.length = openingBudget ∧ tail.length = recentBudget ∧ Marks marker (lost.length + 1) last.recordedAt

/-- What a history is after any number of appends. -/
def EventsKept (appended history : List WorkflowEvent) : Prop :=
  (history = appended ∧ appended.length ≤ workflowEventsLimit) ∨ Shortened appended history

section Append

variable {isoformat : Time → String} {appended history head lost tail : List WorkflowEvent}
  {event last marker : WorkflowEvent}

private theorem filter_not_isMarker {events : List WorkflowEvent} (h : ∀ item ∈ events, item.isMarker = false) :
    (events.filter fun item => !item.isMarker) = events := by
  refine List.filter_eq_self.mpr fun item hitem => ?_
  simp [h item hitem]

private theorem filter_isMarker {events : List WorkflowEvent} (h : ∀ item ∈ events, item.isMarker = false) :
    events.filter WorkflowEvent.isMarker = [] := by
  refine List.filter_eq_nil_iff.mpr fun item hitem => ?_
  simp [h item hitem]

private theorem marks_truncationMarker (events keptHead lost : List WorkflowEvent) (last : WorkflowEvent)
    {count : Nat} (hcount : droppedCount events + (lost ++ [last]).length = count) :
    Marks (truncationMarker isoformat events keptHead (lost ++ [last]) event) count last.recordedAt := by
  refine ⟨rfl, ?_, ?_⟩
  · rw [← hcount]
    rfl
  · simp [truncationMarker]

section Seam

variable {count : Nat} {time : Time}

private theorem Marks.ordinary (h : Marks marker count time) (hkept : ∀ item ∈ head ++ tail, item.isMarker = false) :
    ((head ++ marker :: tail).filter fun item => !item.isMarker) = head ++ tail := by
  rw [List.filter_append, List.filter_cons_of_neg (by simp [h.kind]), ← List.filter_append, filter_not_isMarker hkept]

private theorem Marks.only (h : Marks marker count time) (hkept : ∀ item ∈ head ++ tail, item.isMarker = false) :
    (head ++ marker :: tail).filter WorkflowEvent.isMarker = [marker] := by
  have hhead := filter_isMarker fun item hitem => hkept item (List.mem_append_left _ hitem)
  have htail := filter_isMarker fun item hitem => hkept item (List.mem_append_right _ hitem)
  rw [List.filter_append, List.filter_cons_of_pos h.kind, hhead, htail]
  rfl

private theorem Marks.droppedCount (h : Marks marker count time)
    (hkept : ∀ item ∈ head ++ tail, item.isMarker = false) :
    droppedCount (head ++ marker :: tail) = count := by
  unfold GpuFaultRecovery.droppedCount
  rw [h.only hkept]
  simp [WorkflowEvent.droppedEvents, h.dropped]

end Seam

/-- Over the limit, what stands between the opening events and the most recent ones gives way to a marker. -/
private theorem appendWorkflowEvent_over (isoformat : Time → String)
    (hover : workflowEventsLimit < history.length + 1)
    (hremaining : ((history ++ [event]).filter fun item => !item.isMarker) = head ++ lost ++ tail)
    (hhead : head.length = openingBudget) (htail : tail.length = recentBudget) :
    appendWorkflowEvent isoformat history event =
      head ++ truncationMarker isoformat (history ++ [event]) head lost event :: tail := by
  have hlength : ¬ (history ++ [event]).length ≤ workflowEventsLimit := by
    rw [List.length_append, List.length_singleton]
    omega
  have hfilter : ((history ++ [event]).filter fun item => item.kind != .historyTruncated) = head ++ lost ++ tail :=
    hremaining
  have htake : (head ++ lost ++ tail).take (workflowEventsLimit / 5) = head := by
    rw [List.append_assoc]
    exact List.take_left' hhead
  have hstart :
      max head.length ((head ++ lost ++ tail).length - (workflowEventsLimit - workflowEventsLimit / 5 - 1)) =
      (head ++ lost).length := by
    have hrecent : workflowEventsLimit - workflowEventsLimit / 5 - 1 = tail.length := htail.symm
    rw [hrecent, List.length_append, Nat.add_sub_cancel, List.length_append]
    omega
  unfold appendWorkflowEvent
  dsimp only
  rw [if_neg hlength, hfilter, htake, hstart, List.take_left, List.drop_left, List.drop_left]
  simp

/-- A history within the limit grows; at the limit it loses two events to make room for the marker. -/
private theorem eventsKept_append_whole (hordinary : ∀ item ∈ appended ++ [event], item.isMarker = false)
    (hlimit : appended.length ≤ workflowEventsLimit) :
    EventsKept (appended ++ [event]) (appendWorkflowEvent isoformat appended event) := by
  by_cases hroom : appended.length + 1 ≤ workflowEventsLimit
  · left
    have hlength : (appended ++ [event]).length ≤ workflowEventsLimit := by
      rw [List.length_append]
      exact hroom
    refine ⟨?_, hlength⟩
    unfold appendWorkflowEvent
    dsimp only
    rw [if_pos hlength]
  · right
    have hfull : (appended ++ [event]).length = openingBudget + 2 + recentBudget := by
      have hbudget : openingBudget + 1 + recentBudget = workflowEventsLimit := rfl
      rw [List.length_append, List.length_singleton]
      omega
    have hsplit : appended ++ [event] = (appended ++ [event]).take openingBudget ++
        ((appended ++ [event]).drop openingBudget).take 2 ++ (appended ++ [event]).drop (openingBudget + 2) := by
      rw [List.append_assoc, ← List.drop_drop, List.take_append_drop, List.take_append_drop]
    obtain ⟨first, last, hlost⟩ :
      ∃ first last, ((appended ++ [event]).drop openingBudget).take 2 = [first, last] := by
      refine List.length_eq_two.mp ?_
      rw [List.length_take, List.length_drop]
      omega
    have hhead : ((appended ++ [event]).take openingBudget).length = openingBudget := by
      rw [List.length_take]
      omega
    have htail : ((appended ++ [event]).drop (openingBudget + 2)).length = recentBudget := by
      rw [List.length_drop]
      omega
    rw [hlost] at hsplit
    have hresult := appendWorkflowEvent_over isoformat (by omega) ((filter_not_isMarker hordinary).trans hsplit) hhead
      htail
    refine ⟨_, [first], last, _, _, hsplit, hresult, hhead, htail, marks_truncationMarker _ _ [first] last ?_⟩
    simp [droppedCount, filter_isMarker hordinary]

/-- A shortened history loses the oldest of its most recent events to the marker. -/
private theorem Shortened.append (h : Shortened appended history)
    (hordinary : ∀ item ∈ appended ++ [event], item.isMarker = false) :
    Shortened (appended ++ [event]) (appendWorkflowEvent isoformat history event) := by
  obtain ⟨head, lost, last, tail, marker, rfl, rfl, hhead, htail, hmarker⟩ := h
  obtain ⟨next, rest, rfl⟩ : ∃ next rest, tail = next :: rest := by
    refine List.exists_cons_of_length_pos ?_
    rw [htail]
    decide
  have hevents : head ++ marker :: next :: rest ++ [event] = head ++ marker :: (next :: (rest ++ [event])) := by simp
  have hkept : ∀ item ∈ head ++ next :: (rest ++ [event]), item.isMarker = false := by
    intro item hitem
    refine hordinary item ?_
    simp only [List.mem_append, List.mem_cons, List.not_mem_nil, or_false] at hitem ⊢
    tauto
  have hremaining : ((head ++ marker :: next :: rest ++ [event]).filter fun item => !item.isMarker) =
      head ++ [next] ++ (rest ++ [event]) := by
    rw [hevents, hmarker.ordinary hkept]
    simp
  have hcount : droppedCount (head ++ marker :: next :: rest ++ [event]) = lost.length + 1 := by
    rw [hevents, hmarker.droppedCount hkept]
    rfl
  have htail' : (rest ++ [event]).length = recentBudget := by
    rw [← htail]
    simp
  have hover : workflowEventsLimit < (head ++ marker :: next :: rest).length + 1 := by
    rw [List.length_append, List.length_cons, hhead, htail]
    decide
  have hresult := appendWorkflowEvent_over isoformat hover hremaining hhead htail'
  refine ⟨head, lost ++ [last], next, rest ++ [event], _, by simp, hresult, hhead, htail',
    marks_truncationMarker _ _ [] next ?_⟩
  rw [hcount]
  simp

private theorem EventsKept.append (h : EventsKept appended history)
    (hordinary : ∀ item ∈ appended ++ [event], item.isMarker = false) :
    EventsKept (appended ++ [event]) (appendWorkflowEvent isoformat history event) := by
  rcases h with ⟨rfl, hlimit⟩ | hshort
  · exact eventsKept_append_whole hordinary hlimit
  · exact .inr (hshort.append hordinary)

private theorem eventsKept_exec (isoformat : Time → String) (hordinary : ∀ item ∈ appended, item.isMarker = false) :
    EventsKept appended (Run.exec (appendWorkflowEvent isoformat) [] appended) := by
  induction appended using List.reverseRecOn with
  | nil => exact .inl ⟨rfl, Nat.zero_le _⟩
  | append_singleton appended event ih =>
    rw [Run.exec_append]
    exact (ih fun item hitem => hordinary item (List.mem_append_left _ hitem)).append hordinary

/-! ### What the history says -/

private theorem historyAccounts_whole (hordinary : ∀ item ∈ appended, item.isMarker = false)
    (hlimit : appended.length ≤ workflowEventsLimit) : HistoryAccounts appended appended where
  bounded := hlimit
  oneMarker := by simp [filter_isMarker hordinary]
  accounted := by
    rw [filter_not_isMarker hordinary]
    simp [droppedCount, filter_isMarker hordinary]
  opening := List.take_prefix _ _
  recent := List.drop_suffix _ _
  ordered := List.filter_sublist
  newest := rfl
  chronological := id

private theorem Shortened.accounts (h : Shortened appended history)
    (hordinary : ∀ item ∈ appended, item.isMarker = false) :
    HistoryAccounts appended history := by
  obtain ⟨head, lost, last, tail, marker, rfl, rfl, hhead, htail, hmarker⟩ := h
  have hkept : ∀ item ∈ head ++ tail, item.isMarker = false := by
    intro item hitem
    refine hordinary item ?_
    simp only [List.mem_append] at hitem ⊢
    tauto
  refine
    { bounded := ?_
      oneMarker := ?_
      accounted := ?_
      opening := ?_
      recent := ?_
      ordered := ?_
      newest := ?_
      chronological := fun hordered => ?_ }
  · rw [List.length_append, List.length_cons, hhead, htail]
    decide
  · rw [hmarker.only hkept]
    rfl
  · rw [hmarker.droppedCount hkept, hmarker.ordinary hkept]
    simp only [List.length_append, List.length_singleton]
    push_cast
    omega
  · rw [List.append_assoc, List.take_left' hhead]
    exact List.prefix_append _ _
  · have hstart : (head ++ (lost ++ [last]) ++ tail).length - recentBudget = (head ++ (lost ++ [last])).length := by
      rw [List.length_append, htail, Nat.add_sub_cancel]
    rw [hstart, List.drop_left]
    exact ⟨head ++ [marker], by simp⟩
  · rw [hmarker.ordinary hkept, List.append_assoc]
    exact (List.Sublist.refl head).append (List.sublist_append_right _ _)
  · have htail : tail ≠ [] := by
      rintro rfl
      exact absurd htail (by decide)
    have hnewest := List.getLast?_eq_some_getLast htail
    rw [List.getLast?_append, List.getLast?_cons, List.getLast?_append, hnewest]
    rfl
  · have hlast : last ∈ head ++ (lost ++ [last]) := by simp
    obtain ⟨hfront, htail, hseam⟩ := List.pairwise_append.mp hordered
    obtain ⟨hhead, -, hlost⟩ := List.pairwise_append.mp hfront
    refine List.pairwise_append.mpr ⟨hhead, List.pairwise_cons.mpr ⟨fun item hitem => ?_, htail⟩,
      fun item hitem => ?_⟩
    · rw [hmarker.recordedAt]
      exact hseam last hlast item hitem
    · intro other hother
      rcases List.mem_cons.mp hother with rfl | hother
      · rw [hmarker.recordedAt]
        exact hlost item hitem last (by simp)
      · exact hseam item (List.mem_append_left _ hitem) other hother

private theorem EventsKept.accounts (h : EventsKept appended history)
    (hordinary : ∀ item ∈ appended, item.isMarker = false) :
    HistoryAccounts appended history := by
  rcases h with ⟨rfl, hlimit⟩ | hshort
  · exact historyAccounts_whole hordinary hlimit
  · exact hshort.accounts hordinary

end Append

private theorem isMarker_eq_false {event : WorkflowEvent} (h : event.kind ≠ .historyTruncated) :
    event.isMarker = false := by
  simpa [WorkflowEvent.isMarker] using h

/-- At every point of any sequence of appends of ordinary events, the history accounts for all of them. -/
theorem history_accounts_for_appended (isoformat : Time → String) (events : List WorkflowEvent)
    (hordinary : ∀ event ∈ events, event.kind ≠ .historyTruncated) (appended : List WorkflowEvent)
    (hpart : appended <+: events) :
    HistoryAccounts appended (Run.exec (appendWorkflowEvent isoformat) [] appended) := by
  have hkinds : ∀ item ∈ appended, item.isMarker = false :=
    fun item hitem => isMarker_eq_false (hordinary item (hpart.subset hitem))
  exact (eventsKept_exec isoformat hkinds).accounts hkinds

private def retryLoop : List WorkflowEvent :=
  (List.range 600).map fun n => { kind := .stepAttempt, recordedAt := n }

theorem history_accounts_for_retry_loop :
    HistoryAccounts retryLoop (Run.exec (appendWorkflowEvent fun time => toString time) [] retryLoop) := by
  refine history_accounts_for_appended _ retryLoop (fun event hevent => ?_) retryLoop (List.prefix_refl _)
  obtain ⟨n, -, rfl⟩ := List.mem_map.mp hevent
  simp

private def foreignMarker : WorkflowEvent := { kind := .historyTruncated, recordedAt := 0 }

/-- Markers that are appended like events stand beside each other and count nothing. -/
theorem appended_markers_not_accounted :
    ¬ HistoryAccounts [foreignMarker, foreignMarker]
      (Run.exec (appendWorkflowEvent fun time => toString time) [] [foreignMarker, foreignMarker]) := by
  intro h
  exact absurd h.oneMarker (by decide +kernel)

/-! ### The check of the audit events -/

private theorem Chronological.neighbours {events : List WorkflowEvent} (h : Chronological events)
    {pair : WorkflowEvent × WorkflowEvent} (hpair : pair ∈ events.zip events.tail) :
    pair.1.recordedAt ≤ pair.2.recordedAt := by
  induction events with
  | nil => simp at hpair
  | cons first rest ih =>
    cases rest with
    | nil => simp at hpair
    | cons second rest =>
      obtain ⟨hfirst, hrest⟩ := List.pairwise_cons.mp h
      rcases List.mem_cons.mp hpair with rfl | hpair
      · exact hfirst second List.mem_cons_self
      · exact ih hrest hpair

/-- The check of the audit events finds nothing in a history to which events were appended in their order. -/
theorem eventViolations_exec (isoformat : Time → String) {appended : List WorkflowEvent}
    (hordinary : ∀ event ∈ appended, event.kind ≠ .historyTruncated) (hordered : Chronological appended) :
    eventViolations (Run.exec (appendWorkflowEvent isoformat) [] appended) = [] := by
  have hkinds : ∀ item ∈ appended, item.isMarker = false := fun item hitem => isMarker_eq_false (hordinary item hitem)
  have haccounts := (eventsKept_exec isoformat hkinds).accounts hkinds
  have hhistory := haccounts.chronological hordered
  unfold eventViolations
  dsimp only
  rw [List.append_eq_nil_iff, reportUnless_eq_nil]
  refine ⟨decide_eq_true haccounts.bounded, ?_⟩
  rw [List.findIdx?_eq_none_iff.mpr fun pair hpair => ?_]
  · rfl
  · exact decide_eq_false (not_lt.mpr (hhistory.neighbours hpair))

end GpuFaultRecovery
