import GpuFaultRecovery.ResetBarrier

/-!
# All prepared before any reset

The saves of a barrier tell its history. The newest one remembers what matters of the others: that the barrier was
aborted, that an outcome is unknown, and which participants were reset. A pass that is under way works on participants
as the newest save has them, so what it sends is judged by that save alone.
-/

namespace GpuFaultRecovery

def BarrierState.resets : BarrierState → Bool
  | .committing | .failed | .committed => true
  | _ => false

/-! ### The history of a barrier -/

/-- The state of a barrier and those of its participants agree. -/
structure MultiNodeBarrier.Consistent (barrier : MultiNodeBarrier) : Prop where
  prepared : barrier.state = .prepared → ∀ item ∈ barrier.participants, item.state = .prepared
  committed : barrier.state = .committed → ∀ item ∈ barrier.participants, item.state = .committed
  uncommitted : barrier.state = .preparing ∨ barrier.state = .prepared →
    ∀ item ∈ barrier.participants, item.state ≠ .committed

def MultiNodeBarrier.Known (barrier : MultiNodeBarrier) : Prop :=
  ∀ item ∈ barrier.participants, item.outcomeUnknown = false

/-- What the newest save remembers of all of them. -/
structure BarrierHistory (current : MultiNodeBarrier) (saves : List MultiNodeBarrier) : Prop where
  saved : current ∈ saves
  nodup : current.nodeIds.Nodup
  operation : current.contract.operation ≠ .verifyNoGpuClients
  consistent : current.Consistent
  nodes : ∀ barrier ∈ saves, barrier.nodeIds = current.nodeIds
  aborted : ∀ barrier ∈ saves, barrier.state = .aborted → current.state = .aborted
  known : current.Known → ∀ barrier ∈ saves, barrier.Known
  committed : ∀ barrier ∈ saves, ∀ item ∈ barrier.participants, item.state = .committed →
    ∃ now ∈ current.participants, now.nodeId = item.nodeId ∧ now.state = .committed
  prepared : current.state.resets = true → ∀ nodeId ∈ current.nodeIds, ∃ barrier ∈ saves,
    ∃ item ∈ barrier.participants, item.nodeId = nodeId ∧ item.state = .prepared

/-- What a save keeps of the barrier before it. -/
structure MultiNodeBarrier.Follows (barrier next : MultiNodeBarrier) : Prop where
  nodes : next.nodeIds = barrier.nodeIds
  operation : next.contract = barrier.contract
  consistent : next.Consistent
  aborted : barrier.state = .aborted → next.state = .aborted
  known : next.Known → barrier.Known
  committed : ∀ item ∈ barrier.participants, item.state = .committed →
    ∃ now ∈ next.participants, now.nodeId = item.nodeId ∧ now.state = .committed
  resets : next.state.resets = true → barrier.state = .prepared ∨ barrier.state.resets = true

section History

variable {barrier next current : MultiNodeBarrier} {saves : List MultiNodeBarrier} {item : BarrierParticipant}
  {nodeId : String} {details : Details} {error : Option String} {update : BarrierParticipant → BarrierParticipant}

private theorem BarrierHistory.save (h : BarrierHistory current saves) (hnext : current.Follows next) :
    BarrierHistory next (next :: saves) where
  saved := List.mem_cons_self
  nodup := by
    rw [hnext.nodes]
    exact h.nodup
  operation := by
    rw [hnext.operation]
    exact h.operation
  consistent := hnext.consistent
  nodes := by
    intro barrier hbarrier
    rcases List.mem_cons.mp hbarrier with rfl | hbarrier
    · rfl
    · exact (h.nodes barrier hbarrier).trans hnext.nodes.symm
  aborted := by
    intro barrier hbarrier hstate
    rcases List.mem_cons.mp hbarrier with rfl | hbarrier
    · exact hstate
    · exact hnext.aborted (h.aborted barrier hbarrier hstate)
  known := by
    intro hknown barrier hbarrier
    rcases List.mem_cons.mp hbarrier with rfl | hbarrier
    · exact hknown
    · exact h.known (hnext.known hknown) barrier hbarrier
  committed := by
    intro barrier hbarrier item hitem hstate
    rcases List.mem_cons.mp hbarrier with rfl | hbarrier
    · exact ⟨item, hitem, rfl, hstate⟩
    · obtain ⟨now, hnow, hid, hcommitted⟩ := h.committed barrier hbarrier item hitem hstate
      obtain ⟨later, hlater, hid', hcommitted'⟩ := hnext.committed now hnow hcommitted
      exact ⟨later, hlater, hid'.trans hid, hcommitted'⟩
  prepared := by
    intro hresets nodeId hnode
    rw [hnext.nodes] at hnode
    have hbefore :
        ∃ barrier ∈ saves, ∃ item ∈ barrier.participants, item.nodeId = nodeId ∧ item.state = .prepared := by
      rcases hnext.resets hresets with hprepared | hresets
      · obtain ⟨item, hitem, rfl⟩ := List.mem_map.mp hnode
        exact ⟨current, h.saved, item, hitem, rfl, h.consistent.prepared hprepared item hitem⟩
      · exact h.prepared hresets nodeId hnode
    obtain ⟨barrier, hbarrier, item, hitem⟩ := hbefore
    exact ⟨barrier, List.mem_cons_of_mem _ hbarrier, item, hitem⟩

/-! ### Saves -/

private theorem mem_updateParticipant (h : item ∈ barrier.updateParticipant nodeId update) :
    ∃ old ∈ barrier.participants, (old.nodeId = nodeId ∧ item = update old) ∨ (old.nodeId ≠ nodeId ∧ item = old) := by
  obtain ⟨old, hold, heq⟩ := List.mem_map.mp h
  refine ⟨old, hold, ?_⟩
  split at heq
  · rename_i hid
    exact .inl ⟨hid, heq.symm⟩
  · rename_i hne
    exact .inr ⟨hne, heq.symm⟩

private theorem mem_updateParticipant_of_ne (h : item ∈ barrier.participants) (hne : item.nodeId ≠ nodeId) :
    item ∈ barrier.updateParticipant nodeId update := by
  refine List.mem_map.mpr ⟨item, h, ?_⟩
  rw [if_neg hne]

private theorem mem_updateParticipant_self (h : item ∈ barrier.participants) :
    update item ∈ barrier.updateParticipant item.nodeId update := by
  refine List.mem_map.mpr ⟨item, h, ?_⟩
  rw [if_pos rfl]

private theorem nodeIds_updateParticipant (hupdate : ∀ item, (update item).nodeId = item.nodeId) :
    (barrier.updateParticipant nodeId update).map BarrierParticipant.nodeId = barrier.nodeIds := by
  unfold MultiNodeBarrier.updateParticipant MultiNodeBarrier.nodeIds
  rw [List.map_map]
  refine List.map_congr_left fun item _ => ?_
  simp only [Function.comp_apply]
  split
  · exact hupdate item
  · rfl

private theorem allIn_iff {participants : List BarrierParticipant} {state : ParticipantState}
    (h : MultiNodeBarrier.allIn participants state = true) : ∀ item ∈ participants, item.state = state := by
  intro item hitem
  simp only [MultiNodeBarrier.allIn, Bool.and_eq_true, List.all_eq_true, beq_iff_eq] at h
  exact h.2 item hitem

private theorem prepareState_cases (participants : List BarrierParticipant) :
    MultiNodeBarrier.prepareState participants = .aborted ∨ MultiNodeBarrier.prepareState participants = .preparing ∨
      MultiNodeBarrier.prepareState participants = .prepared ∧ ∀ item ∈ participants, item.state = .prepared := by
  unfold MultiNodeBarrier.prepareState
  split
  · exact .inl rfl
  · split
    · rename_i hall
      exact .inr (.inr ⟨rfl, allIn_iff hall⟩)
    · exact .inr (.inl rfl)

private theorem commitState_cases (participants : List BarrierParticipant) :
    MultiNodeBarrier.commitState participants = .failed ∨ MultiNodeBarrier.commitState participants = .committing ∨
      MultiNodeBarrier.commitState participants = .committed ∧ ∀ item ∈ participants, item.state = .committed := by
  unfold MultiNodeBarrier.commitState
  split
  · exact .inl rfl
  · split
    · rename_i hall
      exact .inr (.inr ⟨rfl, allIn_iff hall⟩)
    · exact .inr (.inl rfl)

private theorem recordPrepare_eq (nodeId : String) (details : Details) (error : Option String)
    (hstate : barrier.state = .preparing) :
    ∃ next, barrier.recordPrepare nodeId details error = some next ∧ next.contract = barrier.contract ∧
      next.state = MultiNodeBarrier.prepareState next.participants ∧
      next.participants = barrier.updateParticipant nodeId fun item =>
        { item with
          state := if error.isSome then .failed else .prepared
          prepareDetails := details
          error } := by
  unfold MultiNodeBarrier.recordPrepare
  dsimp only
  rw [if_pos (.inl hstate)]
  exact ⟨_, rfl, rfl, rfl, rfl⟩

private theorem recordCommit_eq (nodeId : String) (details : Details) (error : Option String)
    (hstate : barrier.state = .committing ∨ barrier.state = .failed) :
    ∃ next, barrier.recordCommit nodeId details error = some next ∧ next.contract = barrier.contract ∧
      next.state = MultiNodeBarrier.commitState next.participants ∧
      next.participants = barrier.updateParticipant nodeId fun item =>
        { item with
          state := if error.isSome then .failed else .committed
          commitDetails := details
          error } := by
  unfold MultiNodeBarrier.recordCommit
  dsimp only
  rw [if_pos hstate]
  exact ⟨_, rfl, rfl, rfl, rfl⟩

/-- What a pass may rely on of a save it made. -/
structure MultiNodeBarrier.SavedAfter (barrier next : MultiNodeBarrier) (nodeId : String) (details : Details) :
    Prop where
  follows : barrier.Follows next
  known : unknownOutcomeFailure details = false → next.Known
  unknown : unknownOutcomeFailure details = true → ¬ next.Known
  others : ∀ item ∈ barrier.participants, item.nodeId ≠ nodeId → item ∈ next.participants

/-- A record of the first phase, on a barrier nothing is unknown of. -/
private theorem saved_recordPrepare (details : Details) (error : Option String)
    (hconsistent : barrier.Consistent) (hstate : barrier.state = .preparing) (hknown : barrier.Known)
    (hitem : item ∈ barrier.participants) :
    ∃ next, barrier.recordPrepare item.nodeId details error = some next ∧
      barrier.SavedAfter next item.nodeId details ∧ next.state.resets = false := by
  obtain ⟨next, heq, hcontract, hnext, hitems⟩ := recordPrepare_eq item.nodeId details error hstate
  have hupdated : { item with
      state := if error.isSome then .failed else .prepared
      prepareDetails := details
      error } ∈ next.participants := by
    rw [hitems]
    exact mem_updateParticipant_self hitem
  have hold : ∀ item ∈ next.participants, item.state ≠ .committed ∧
      (unknownOutcomeFailure details = false → item.outcomeUnknown = false) := by
    intro item hitem
    rw [hitems] at hitem
    obtain ⟨old, hold, ⟨-, rfl⟩ | ⟨-, rfl⟩⟩ := mem_updateParticipant hitem
    · refine ⟨?_, fun hdetails => ?_⟩
      · dsimp only
        split <;> exact ParticipantState.noConfusion
      · have hcommit := (Bool.or_eq_false_iff.mp (hknown old hold)).2
        exact Bool.or_eq_false_iff.mpr ⟨hdetails, hcommit⟩
    · exact ⟨hconsistent.uncommitted (.inl hstate) item hold, fun _ => hknown item hold⟩
  have hresets : next.state.resets = false := by
    rcases prepareState_cases next.participants with h | h | ⟨h, -⟩ <;> rw [hnext, h] <;> rfl
  refine ⟨next, heq, ⟨⟨?_, hcontract, ⟨?_, ?_, ?_⟩, ?_, fun _ => hknown, ?_, ?_⟩, ?_, ?_, ?_⟩, hresets⟩
  · unfold MultiNodeBarrier.nodeIds
    rw [hitems]
    exact nodeIds_updateParticipant fun _ => rfl
  · intro hprepared
    rcases prepareState_cases next.participants with h | h | ⟨-, h⟩
    · rw [hnext, h] at hprepared
      cases hprepared
    · rw [hnext, h] at hprepared
      cases hprepared
    · exact h
  · intro hcommitted
    rw [hcommitted] at hresets
    cases hresets
  · exact fun _ item hitem => (hold item hitem).1
  · intro habort
    rw [hstate] at habort
    cases habort
  · intro item hitem hcommitted
    exact absurd hcommitted (hconsistent.uncommitted (.inl hstate) item hitem)
  · intro hnextResets
    rw [hresets] at hnextResets
    cases hnextResets
  · exact fun hdetails item hitem => (hold item hitem).2 hdetails
  · intro hdetails hnextKnown
    have hnow := (Bool.or_eq_false_iff.mp (hnextKnown _ hupdated)).1
    rw [hdetails] at hnow
    cases hnow
  · intro item hitem hne
    rw [hitems]
    exact mem_updateParticipant_of_ne hitem hne

/-- A record of the second phase, on a participant that is not reset yet. -/
private theorem saved_recordCommit (details : Details) (error : Option String) (hnodup : barrier.nodeIds.Nodup)
    (hstate : barrier.state = .committing ∨ barrier.state = .failed)
    (hknown : barrier.Known) (hitem : item ∈ barrier.participants) (huncommitted : item.state ≠ .committed) :
    ∃ next, barrier.recordCommit item.nodeId details error = some next ∧
      barrier.SavedAfter next item.nodeId details ∧ next.state.resets = true := by
  obtain ⟨next, heq, hcontract, hnext, hitems⟩ := recordCommit_eq item.nodeId details error hstate
  have hupdated : { item with
      state := if error.isSome then .failed else .committed
      commitDetails := details
      error } ∈ next.participants := by
    rw [hitems]
    exact mem_updateParticipant_self hitem
  have hresets : next.state.resets = true := by
    rcases commitState_cases next.participants with h | h | ⟨h, -⟩ <;> rw [hnext, h] <;> rfl
  refine ⟨next, heq, ⟨⟨?_, hcontract, ⟨?_, ?_, ?_⟩, ?_, fun _ => hknown, ?_, ?_⟩, ?_, ?_, ?_⟩, hresets⟩
  · unfold MultiNodeBarrier.nodeIds
    rw [hitems]
    exact nodeIds_updateParticipant fun _ => rfl
  · intro hprepared
    rw [hprepared] at hresets
    cases hresets
  · intro hcommitted
    rcases commitState_cases next.participants with h | h | ⟨-, h⟩
    · rw [hnext, h] at hcommitted
      cases hcommitted
    · rw [hnext, h] at hcommitted
      cases hcommitted
    · exact h
  · rintro (hfirst | hfirst) <;> rw [hfirst] at hresets <;> cases hresets
  · intro habort
    rcases hstate with hstate | hstate <;> rw [hstate] at habort <;> cases habort
  · -- another participant that is reset stays so: a node stands once on a barrier
    intro other hother hcommitted
    rw [hitems]
    refine ⟨other, mem_updateParticipant_of_ne hother fun heq => ?_, rfl, hcommitted⟩
    rw [List.inj_on_of_nodup_map hnodup hother hitem heq] at hcommitted
    exact huncommitted hcommitted
  · intro _
    rcases hstate with hstate | hstate <;> exact .inr (by rw [hstate]; rfl)
  · intro hdetails other hother
    rw [hitems] at hother
    obtain ⟨old, hold, ⟨-, rfl⟩ | ⟨-, rfl⟩⟩ := mem_updateParticipant hother
    · exact Bool.or_eq_false_iff.mpr ⟨(Bool.or_eq_false_iff.mp (hknown old hold)).1, hdetails⟩
    · exact hknown _ hold
  · intro hdetails hnextKnown
    have hnow := (Bool.or_eq_false_iff.mp (hnextKnown _ hupdated)).2
    rw [hdetails] at hnow
    cases hnow
  · intro other hother hne
    rw [hitems]
    exact mem_updateParticipant_of_ne hother hne

private theorem follows_abort (reason : String) : barrier.Follows (barrier.abort reason) := by
  refine ⟨?_, rfl, ⟨?_, ?_, ?_⟩, fun _ => rfl, ?_, ?_, ?_⟩
  · unfold MultiNodeBarrier.abort MultiNodeBarrier.nodeIds
    rw [List.map_map]
    rfl
  · intro hnext
    cases hnext
  · intro hnext
    cases hnext
  · rintro (hnext | hnext) <;> cases hnext
  · intro hknown item hitem
    have hnow := hknown _ (List.mem_map.mpr ⟨item, hitem, rfl⟩)
    exact hnow
  · intro item hitem hcommitted
    exact ⟨_, List.mem_map.mpr ⟨item, hitem, rfl⟩, rfl, hcommitted⟩
  · intro hresets
    cases hresets

private theorem follows_beginCommit (generations : Generations) (hstate : barrier.state = .prepared) :
    barrier.Follows (barrier.beginCommit generations) := by
  unfold MultiNodeBarrier.beginCommit
  split
  · refine ⟨rfl, rfl, ⟨?_, ?_, ?_⟩, ?_, id, ?_, fun _ => .inl hstate⟩
    · intro hnext
      cases hnext
    · intro hnext
      cases hnext
    · rintro (hnext | hnext) <;> cases hnext
    · intro habort
      rw [hstate] at habort
      cases habort
    · intro item hitem hcommitted
      exact ⟨item, hitem, rfl, hcommitted⟩
  · exact follows_abort _

private theorem history_fresh (barrierId : String) {contract : BarrierContract} {generations : Generations}
    (hnodup : (generations.map Prod.fst).Nodup) (hoperation : contract.operation ≠ .verifyNoGpuClients) :
    BarrierHistory (.fresh barrierId contract generations) [.fresh barrierId contract generations] := by
  have hitems : ∀ item ∈ (MultiNodeBarrier.fresh barrierId contract generations).participants,
      item.state = .pending ∧ item.outcomeUnknown = false := by
    intro item hitem
    obtain ⟨entry, -, rfl⟩ := List.mem_map.mp hitem
    exact ⟨rfl, rfl⟩
  refine ⟨List.mem_singleton_self _, ?_, hoperation, ⟨?_, ?_, ?_⟩, ?_, ?_, ?_, ?_, ?_⟩
  · have hsorted : ((sortedByNode generations).map Prod.fst).Nodup := by
      unfold sortedByNode
      rw [((List.perm_insertionSort _ generations).map Prod.fst).nodup_iff]
      exact hnodup
    unfold MultiNodeBarrier.fresh MultiNodeBarrier.nodeIds
    rw [List.map_map]
    exact hsorted
  · intro hstate
    cases hstate
  · intro hstate
    cases hstate
  · intro _ item hitem hcommitted
    rw [(hitems item hitem).1] at hcommitted
    cases hcommitted
  · intro barrier hbarrier
    rw [List.mem_singleton.mp hbarrier]
  · intro barrier hbarrier hstate
    rwa [List.mem_singleton.mp hbarrier] at hstate
  · intro hknown barrier hbarrier
    rwa [List.mem_singleton.mp hbarrier]
  · intro barrier hbarrier item hitem hcommitted
    rw [List.mem_singleton.mp hbarrier] at hitem
    rw [(hitems item hitem).1] at hcommitted
    cases hcommitted
  · intro hresets
    cases hresets

end History

/-! ### Passes -/

/-- A pass asks participants as the newest save has them, and nothing is unknown of that save. -/
structure PassOk (current : MultiNodeBarrier) (pass : ResetPass) : Prop where
  known : current.Known
  reads : ∀ item ∈ pass.participant :: pass.remaining, item ∈ current.participants
  nodup : ((pass.participant :: pass.remaining).map BarrierParticipant.nodeId).Nodup
  asks : pass.attempt = none → current.state = .preparing
  resets : pass.attempt ≠ none →
    (current.state = .committing ∨ current.state = .failed) ∧ pass.participant.state ≠ .committed

def RunOk (s : ResetRun) : Prop :=
  s.saves = [] ∧ s.pass = none ∨
    ∃ current older, s.saves = current :: older ∧ BarrierHistory current s.saves ∧ ∀ pass, s.pass = some pass →
      PassOk current pass

/-- A reset is reported done only if the newest save has every participant reset. -/
def SafeReport (s : ResetRun) (outcome : StepOutcome) : Prop :=
  outcome.status = .succeeded →
    ∃ current older, s.saves = current :: older ∧ ∀ item ∈ current.participants, item.state = .committed

def ReportsSafely (s next : ResetRun) : Prop :=
  next.reports = s.reports ∨ ∃ outcome, next.reports = outcome :: s.reports ∧ SafeReport next outcome

/-- What every event but a send does to a run. -/
structure GoesOn (s next : ResetRun) : Prop where
  ok : RunOk next
  saves : s.saves <:+ next.saves
  sent : next.sent = s.sent
  reports : ReportsSafely s next

section Passes

variable {s : ResetRun} {current next : MultiNodeBarrier} {older : List MultiNodeBarrier} {outcome : StepOutcome}
  {mapping : List (String × List String)} {remaining : List BarrierParticipant} {pass : ResetPass}
  {verifyMaxAttempts attempt : Nat} {details : Details} {answer : NodeAnswer} {operation : WorkflowOperation}
  {what : String}

private theorem goesOn_refl (h : RunOk s) : GoesOn s s := ⟨h, List.suffix_rfl, rfl, .inl rfl⟩

private theorem goesOn_report (h : RunOk { s with pass := none }) (hsafe : SafeReport s outcome) :
    GoesOn s (s.report outcome) :=
  ⟨h, List.suffix_rfl, rfl, .inr ⟨outcome, rfl, hsafe⟩⟩

private theorem goesOn_failed (h : RunOk { s with pass := none }) (hstatus : outcome.status ≠ .succeeded) :
    GoesOn s (s.report outcome) :=
  goesOn_report h fun hsucceeded => absurd hsucceeded hstatus

private theorem goesOn_of_save {t : ResetRun} (h : GoesOn (s.save next) t) : GoesOn s t :=
  ⟨h.ok, (List.suffix_cons next s.saves).trans h.saves, h.sent, h.reports⟩

private theorem runOk_idle (h : RunOk s) : RunOk { s with pass := none } := by
  rcases h with ⟨hsaves, -⟩ | ⟨current, older, hsaves, hhistory, -⟩
  · exact .inl ⟨hsaves, rfl⟩
  · refine .inr ⟨current, older, hsaves, hhistory, fun pass hpass => ?_⟩
    cases hpass

private theorem runOk_of_history (hsaves : s.saves = current :: older) (hhistory : BarrierHistory current s.saves) :
    RunOk { s with pass := none } := by
  refine .inr ⟨current, older, hsaves, hhistory, fun pass hpass => ?_⟩
  cases hpass

private theorem dropWhile_sublist_of_eq {p : BarrierParticipant → Bool} {item : BarrierParticipant}
    {rest : List BarrierParticipant} (h : remaining.dropWhile p = item :: rest) :
    List.Sublist (item :: rest) remaining ∧ p item = false := by
  refine ⟨?_, ?_⟩
  · rw [← h]
    exact List.dropWhile_sublist p
  · have hhead := List.head?_dropWhile_not p remaining
    rw [h] at hhead
    simpa using hhead

private theorem goesOn_askNext (hsaves : s.saves = current :: older) (hhistory : BarrierHistory current s.saves)
    (hknown : current.Known) (hresets : current.state.resets = false)
    (hreads : ∀ item ∈ remaining, item ∈ current.participants)
    (hnodup : (remaining.map BarrierParticipant.nodeId).Nodup) : GoesOn s (s.askNext current mapping remaining) := by
  have hidle := runOk_of_history hsaves hhistory
  have hwaits : current.prepareOutcome.status ≠ .succeeded := by
    unfold MultiNodeBarrier.prepareOutcome
    split <;> exact WorkflowStepStatus.noConfusion
  unfold ResetRun.askNext
  split
  · exact goesOn_failed hidle hwaits
  · rename_i item rest hdrop
    split
    · exact goesOn_failed hidle hwaits
    · rename_i haborted
      obtain ⟨hsub, hpending⟩ := dropWhile_sublist_of_eq hdrop
      have hpending : item.state = .pending := by simpa using hpending
      have hitem := hreads item (hsub.subset List.mem_cons_self)
      refine ⟨.inr ⟨current, older, hsaves, hhistory, ?_⟩, List.suffix_rfl, rfl, .inl rfl⟩
      intro pass hpass
      cases hpass
      refine ⟨hknown, fun other hother => hreads other (hsub.subset hother), (hsub.map _).nodup hnodup,
        fun _ => ?_, ?_⟩
      · -- a pending participant rules out every other state
        cases hstate : current.state with
        | preparing => rfl
        | prepared =>
          have hprepared := hhistory.consistent.prepared hstate item hitem
          rw [hpending] at hprepared
          cases hprepared
        | aborted => exact absurd hstate haborted
        | committing | committed | failed =>
          rw [hstate] at hresets
          cases hresets
      · intro hattempt
        exact absurd rfl hattempt

private theorem goesOn_resetNext (hsaves : s.saves = current :: older) (hhistory : BarrierHistory current s.saves)
    (hknown : current.Known) (hresets : current.state.resets = true)
    (hreads : ∀ item ∈ remaining, item ∈ current.participants)
    (hnodup : (remaining.map BarrierParticipant.nodeId).Nodup) :
    GoesOn s (s.resetNext current verifyMaxAttempts attempt mapping remaining) := by
  have hidle := runOk_of_history hsaves hhistory
  unfold ResetRun.resetNext
  split
  · refine goesOn_report hidle fun hsucceeded => ⟨current, older, hsaves, ?_⟩
    unfold MultiNodeBarrier.commitOutcome at hsucceeded
    dsimp only at hsucceeded
    split at hsucceeded
    · cases hsucceeded
    · split at hsucceeded
      · cases hsucceeded
      · rename_i hcommitted
        exact hhistory.consistent.committed (not_not.mp hcommitted)
  · rename_i item rest hdrop
    obtain ⟨hsub, hstays⟩ := dropWhile_sublist_of_eq hdrop
    have huncommitted : item.state ≠ .committed := by simpa using hstays
    have hitem := hreads item (hsub.subset List.mem_cons_self)
    refine ⟨.inr ⟨current, older, hsaves, hhistory, ?_⟩, List.suffix_rfl, rfl, .inl rfl⟩
    intro pass hpass
    cases hpass
    refine ⟨hknown, fun other hother => hreads other (hsub.subset hother), (hsub.map _).nodup hnodup, ?_,
      fun _ => ⟨?_, huncommitted⟩⟩
    · intro hattempt
      cases hattempt
    · cases hstate : current.state with
      | committing => exact .inl rfl
      | failed => exact .inr rfl
      | committed => exact absurd (hhistory.consistent.committed hstate item hitem) huncommitted
      | preparing | prepared | aborted =>
        rw [hstate] at hresets
        cases hresets

private theorem unknown_of_interrupted (error : Option String) (raw : Details) :
    unknownOutcomeFailure (NodeAnswer.evidence (.result .interrupted error raw) operation) = true := by
  refine List.any_eq_true.mpr ⟨"node_action_interrupted", by decide, ?_⟩
  unfold NodeAnswer.evidence Details.flag
  dsimp only
  rw [if_pos rfl, Details.get?_set_self]
  rfl

/-- An answer a pass goes on after leaves nothing unknown. -/
private theorem known_of_succeeded (h : barrierVerdict answer operation what = .succeeded details) :
    unknownOutcomeFailure details = false := by
  unfold barrierVerdict at h
  dsimp only at h
  split at h
  · cases h
  · split at h
    · cases h
    · rename_i hknown
      cases answer with
      | outcome error raw => cases h
      | result status error raw =>
        cases status with
        | failed => cases h
        | succeeded =>
          cases h
          exact eq_false_of_ne_true hknown
        | interrupted => exact absurd (unknown_of_interrupted error raw) hknown

private theorem manualFailure_some (nodeId error : String) (details : Details) :
    ∃ outcome, current.manualFailure (some (nodeId, error, details)) = some outcome ∧ outcome.status = .failed := by
  unfold MultiNodeBarrier.manualFailure
  dsimp only
  rw [if_neg]
  · exact ⟨_, rfl, rfl⟩
  · intro hempty
    rw [List.isEmpty_iff, List.append_eq_nil_iff, List.map_eq_nil_iff, List.map_eq_nil_iff] at hempty
    rw [hempty.1] at hempty
    simp at hempty

private theorem manualFailure_none (h : current.manualFailure none = none) : current.Known := by
  unfold MultiNodeBarrier.manualFailure at h
  dsimp only at h
  split at h
  · rename_i hempty
    rw [List.isEmpty_iff, List.append_eq_nil_iff, List.map_eq_nil_iff, List.filter_eq_nil_iff] at hempty
    exact fun item hitem => eq_false_of_ne_true (hempty.1 item hitem)
  · cases h

private theorem manualFailure_status (h : current.manualFailure none = some outcome) : outcome.status = .failed := by
  unfold MultiNodeBarrier.manualFailure at h
  dsimp only at h
  split at h
  · cases h
  · cases h
    rfl

private theorem beginCommit_cases (barrier : MultiNodeBarrier) (generations : Generations) :
    (barrier.beginCommit generations).state = .aborted ∨
      (barrier.beginCommit generations).state = .committing ∧
        (barrier.beginCommit generations).participants = barrier.participants := by
  unfold MultiNodeBarrier.beginCommit
  split
  · exact .inr ⟨rfl, rfl⟩
  · exact .inl rfl

/-- A pass over a barrier nothing is unknown of, or its end. -/
private theorem goesOn_resume (request : ResetStart) (hsaves : s.saves = current :: older)
    (hhistory : BarrierHistory current s.saves) : GoesOn s (s.resume verifyMaxAttempts request mapping current) := by
  have hidle := runOk_of_history hsaves hhistory
  unfold ResetRun.resume
  split
  · rename_i outcome hmanual
    refine goesOn_failed hidle ?_
    rw [manualFailure_status hmanual]
    exact WorkflowStepStatus.noConfusion
  · rename_i hmanual
    have hknown := manualFailure_none hmanual
    split
    · rename_i hstate
      exact goesOn_askNext hsaves hhistory hknown (by rw [hstate]; rfl) (fun _ => id) hhistory.nodup
    · rename_i hstate
      have hfollows := follows_beginCommit request.generations hstate
      have hhistory' := hhistory.save hfollows
      rcases beginCommit_cases current request.generations with haborted | ⟨hcommitting, hitems⟩
      · dsimp only
        rw [if_pos haborted]
        have hidle' : RunOk { s.save (current.beginCommit request.generations) with pass := none } :=
          runOk_of_history rfl hhistory'
        exact goesOn_of_save (goesOn_failed hidle' WorkflowStepStatus.noConfusion)
      · have hknown' : (current.beginCommit request.generations).Known := by
          unfold MultiNodeBarrier.Known
          rw [hitems]
          exact hknown
        dsimp only
        rw [if_neg (by rw [hcommitting]; exact BarrierState.noConfusion)]
        exact goesOn_of_save (goesOn_resetNext rfl hhistory' hknown' (by rw [hcommitting]; rfl) (fun _ => id)
          hhistory'.nodup)
    · exact goesOn_failed hidle WorkflowStepStatus.noConfusion
    · rename_i hstate
      refine goesOn_report hidle fun _ => ⟨current, older, hsaves, hhistory.consistent.committed hstate⟩
    · rename_i hstate
      exact goesOn_resetNext hsaves hhistory hknown (by rw [hstate]; rfl) (fun _ => id) hhistory.nodup
    · rename_i hstate
      exact goesOn_resetNext hsaves hhistory hknown (by rw [hstate]; rfl) (fun _ => id) hhistory.nodup

private theorem PassOk.remaining_saved (hpass : PassOk current pass)
    (hafter : current.SavedAfter next pass.participant.nodeId details) :
    ∀ item ∈ pass.remaining, item ∈ next.participants := by
  intro item hitem
  refine hafter.others item (hpass.reads item (List.mem_cons_of_mem _ hitem)) fun heq => ?_
  have hnotin := (List.nodup_cons.mp hpass.nodup).1
  exact hnotin (List.mem_map.mpr ⟨item, hitem, heq⟩)

private theorem goesOn_parked (hhistory : BarrierHistory current s.saves) (hfollows : current.Follows next)
    (hstatus : outcome.status = .failed) : GoesOn s ((s.save next).report outcome) := by
  have hidle : RunOk { s.save next with pass := none } := runOk_of_history rfl (hhistory.save hfollows)
  refine goesOn_of_save (goesOn_failed hidle ?_)
  rw [hstatus]
  exact WorkflowStepStatus.noConfusion

/-- A pass takes an answer: what its phase records is a save to go on from. -/
private theorem goesOn_takeVerdict {nodeId : String} {verdict : BarrierVerdict}
    {record : Details → Option String → Option MultiNodeBarrier} {goOn : ResetRun → MultiNodeBarrier → ResetRun}
    {phase : Bool} (hhistory : BarrierHistory current s.saves)
    (hrecord : ∀ details error, ∃ next, record details error = some next ∧ current.SavedAfter next nodeId details ∧
      next.state.resets = phase)
    (hgo : ∀ next details, current.SavedAfter next nodeId details → next.state.resets = phase → next.Known →
      GoesOn (s.save next) (goOn (s.save next) next))
    (hverdict : ∀ details, verdict = .succeeded details → unknownOutcomeFailure details = false) :
    GoesOn s (s.takeVerdict current nodeId verdict record goOn) := by
  cases verdict with
  | refused details error =>
    obtain ⟨next, heq, hafter, -⟩ := hrecord details (some error)
    unfold ResetRun.takeVerdict
    dsimp only
    rw [heq]
    exact goesOn_parked hhistory hafter.follows rfl
  | unknown details error =>
    obtain ⟨next, heq, hafter, -⟩ := hrecord details (some error)
    obtain ⟨outcome, houtcome, hstatus⟩ := @manualFailure_some next nodeId error details
    unfold ResetRun.takeVerdict
    dsimp only
    rw [heq]
    unfold ResetRun.recorded
    dsimp only
    rw [houtcome]
    exact goesOn_parked hhistory hafter.follows hstatus
  | failed error =>
    obtain ⟨next, heq, hafter, hphase⟩ := hrecord [] (some error)
    unfold ResetRun.takeVerdict
    dsimp only
    rw [heq]
    exact goesOn_of_save (hgo next [] hafter hphase (hafter.known rfl))
  | succeeded details =>
    obtain ⟨next, heq, hafter, hphase⟩ := hrecord details none
    unfold ResetRun.takeVerdict
    dsimp only
    rw [heq]
    exact goesOn_of_save (hgo next details hafter hphase (hafter.known (hverdict details rfl)))

private theorem PassOk.recordPrepare_saved (hpass : PassOk current pass) (hconsistent : current.Consistent)
    (hattempt : pass.attempt = none) (details : Details) (error : Option String) :
    ∃ next, current.recordPrepare pass.participant.nodeId details error = some next ∧
      current.SavedAfter next pass.participant.nodeId details ∧ next.state.resets = false :=
  saved_recordPrepare details error hconsistent (hpass.asks hattempt) hpass.known (hpass.reads _ List.mem_cons_self)

private theorem PassOk.recordCommit_saved (hpass : PassOk current pass) (hnodup : current.nodeIds.Nodup)
    (hattempt : pass.attempt = some attempt) (details : Details) (error : Option String) :
    ∃ next, current.recordCommit pass.participant.nodeId details error = some next ∧
      current.SavedAfter next pass.participant.nodeId details ∧ next.state.resets = true := by
  have hcommit := hpass.resets (by rw [hattempt]; exact Option.some_ne_none _)
  exact saved_recordCommit details error hnodup hcommit.1 hpass.known (hpass.reads _ List.mem_cons_self) hcommit.2

private theorem goesOn_recordAnswer (hhistory : BarrierHistory current s.saves) (hpass : PassOk current pass)
    (answer : NodeAnswer) : GoesOn s (s.recordAnswer verifyMaxAttempts pass answer current) := by
  have hrest := (List.nodup_cons.mp hpass.nodup).2
  unfold ResetRun.recordAnswer
  dsimp only
  split
  · rename_i hattempt
    refine goesOn_takeVerdict hhistory (hpass.recordPrepare_saved hhistory.consistent hattempt)
      (fun next details hafter hphase hknown => ?_) fun details => known_of_succeeded
    exact goesOn_askNext rfl (hhistory.save hafter.follows) hknown hphase (hpass.remaining_saved hafter) hrest
  · rename_i attempt hattempt
    refine goesOn_takeVerdict hhistory (hpass.recordCommit_saved hhistory.nodup hattempt)
      (fun next details hafter hphase hknown => ?_) fun details => known_of_succeeded
    exact goesOn_resetNext rfl (hhistory.save hafter.follows) hknown hphase (hpass.remaining_saved hafter) hrest

/-! ### Runs -/

private theorem goesOn_start (request : ResetStart) (h : RunOk s) (hnodup : (request.generations.map Prod.fst).Nodup)
    (hoperation : request.contract.operation ≠ .verifyNoGpuClients) :
    GoesOn s (s.start verifyMaxAttempts request) := by
  have hidle := runOk_idle h
  unfold ResetRun.start
  split
  · exact goesOn_failed hidle WorkflowStepStatus.noConfusion
  · rename_i mapping hmapping
    split
    · rename_i hsaves
      have hhistory : BarrierHistory (.fresh request.barrierId request.contract request.generations)
          (s.save (.fresh request.barrierId request.contract request.generations)).saves := by
        unfold ResetRun.save
        rw [hsaves]
        exact history_fresh request.barrierId hnodup hoperation
      exact goesOn_of_save (goesOn_resume request rfl hhistory)
    · rename_i barrier older hsaves
      split
      · rcases h with ⟨hempty, -⟩ | ⟨current, rest, hcurrent, hhistory, -⟩
        · rw [hempty] at hsaves
          cases hsaves
        · rw [hcurrent] at hsaves
          cases hsaves
          exact goesOn_resume request hcurrent hhistory
      · exact goesOn_failed hidle WorkflowStepStatus.noConfusion

/-- What holds of the barrier when an action is sent to a node. -/
structure SafeSend (saves : List MultiNodeBarrier) (action : SentAction) : Prop where
  unaborted : ∀ barrier ∈ saves, barrier.state ≠ .aborted
  known : ∀ barrier ∈ saves, barrier.Known
  prepared : action.operation ≠ .verifyNoGpuClients → ∀ barrier ∈ saves, ∀ nodeId ∈ barrier.nodeIds,
    ∃ earlier ∈ saves, ∃ item ∈ earlier.participants, item.nodeId = nodeId ∧ item.state = .prepared
  uncommitted : action.operation ≠ .verifyNoGpuClients → ∀ barrier ∈ saves, ∀ item ∈ barrier.participants,
    item.nodeId = action.nodeId → item.state ≠ .committed

private theorem safeSend_of_passOk (hhistory : BarrierHistory current s.saves) (hpass : PassOk current pass) :
    SafeSend s.saves (pass.action current.contract.operation) := by
  have hstate : current.state ≠ .aborted := by
    intro haborted
    by_cases hattempt : pass.attempt = none
    · rw [hpass.asks hattempt] at haborted
      cases haborted
    · rcases (hpass.resets hattempt).1 with h | h <;> rw [h] at haborted <;> cases haborted
  have hresets : (pass.action current.contract.operation).operation ≠ .verifyNoGpuClients →
      (current.state = .committing ∨ current.state = .failed) ∧ pass.participant.state ≠ .committed := by
    intro hoperation
    refine hpass.resets fun hattempt => hoperation ?_
    unfold ResetPass.action
    dsimp only
    rw [hattempt]
    rfl
  refine ⟨fun barrier hbarrier haborted => hstate (hhistory.aborted barrier hbarrier haborted),
    hhistory.known hpass.known, fun hoperation barrier hbarrier nodeId hnode => ?_, ?_⟩
  · rw [hhistory.nodes barrier hbarrier] at hnode
    refine hhistory.prepared ?_ nodeId hnode
    rcases (hresets hoperation).1 with h | h <;> rw [h] <;> rfl
  · intro hoperation barrier hbarrier item hitem hnode hcommitted
    obtain ⟨now, hnow, hid, hstays⟩ := hhistory.committed barrier hbarrier item hitem hcommitted
    have hparticipant := hpass.reads _ List.mem_cons_self
    have heq : now = pass.participant :=
      List.inj_on_of_nodup_map hhistory.nodup hnow hparticipant (hid.trans hnode)
    rw [heq] at hstays
    exact (hresets hoperation).2 hstays

private theorem verdict_of_unknown (h : unknownOutcomeFailure (answer.evidence operation) = true) :
    ∃ details error, unknownOutcomeFailure details = true ∧
      (barrierVerdict answer operation what = .refused details error ∨
        barrierVerdict answer operation what = .unknown details error) := by
  unfold barrierVerdict
  dsimp only
  split
  · exact ⟨_, _, h, .inl rfl⟩
  · refine ⟨_, _, List.any_eq_true.mpr ⟨"manual_confirmation_required", by decide, ?_⟩, .inr rfl⟩
    unfold Details.flag
    rw [Details.get?_set_self]
    rfl

private theorem unknown_takeVerdict {nodeId : String} {verdict : BarrierVerdict} {error : String}
    {record : Details → Option String → Option MultiNodeBarrier} {goOn : ResetRun → MultiNodeBarrier → ResetRun}
    {phase : Bool}
    (hrecord : ∀ details error, ∃ next, record details error = some next ∧ current.SavedAfter next nodeId details ∧
      next.state.resets = phase)
    (hunknown : unknownOutcomeFailure details = true)
    (hverdict : verdict = .refused details error ∨ verdict = .unknown details error) :
    ∃ barrier ∈ (s.takeVerdict current nodeId verdict record goOn).saves, ¬ barrier.Known := by
  obtain ⟨next, heq, hafter, -⟩ := hrecord details (some error)
  refine ⟨next, ?_, hafter.unknown hunknown⟩
  rcases hverdict with rfl | rfl
  all_goals
    unfold ResetRun.takeVerdict
    dsimp only
    rw [heq]
    exact List.mem_cons_self

private theorem unknown_recordAnswer (hhistory : BarrierHistory current s.saves) (hpass : PassOk current pass)
    (h : unknownOutcomeFailure (answer.evidence (pass.action current.contract.operation).operation) = true) :
    ∃ barrier ∈ (s.recordAnswer verifyMaxAttempts pass answer current).saves, ¬ barrier.Known := by
  unfold ResetPass.action at h
  unfold ResetRun.recordAnswer
  dsimp only at h ⊢
  split
  · rename_i hattempt
    rw [hattempt] at h
    obtain ⟨details, error, hunknown, hverdict⟩ := verdict_of_unknown h
    exact unknown_takeVerdict (hpass.recordPrepare_saved hhistory.consistent hattempt) hunknown hverdict
  · rename_i attempt hattempt
    rw [hattempt] at h
    obtain ⟨details, error, hunknown, hverdict⟩ := verdict_of_unknown h
    exact unknown_takeVerdict (hpass.recordCommit_saved hhistory.nodup hattempt) hunknown hverdict

end Passes

/-- What an event of a run may do. -/
structure SafeReset (verifyMaxAttempts : Nat) (s : ResetRun) (event : ResetEvent) : Prop where
  saves : s.saves <:+ (barrierStep verifyMaxAttempts s event).saves
  sends : (barrierStep verifyMaxAttempts s event).sent = s.sent ∨
    ∃ action, (barrierStep verifyMaxAttempts s event).sent = action :: s.sent ∧ SafeSend s.saves action
  reports : ReportsSafely s (barrierStep verifyMaxAttempts s event)
  /-- An answer whose outcome is unknown is saved as such. -/
  records : event = .record → ∀ pass answer current older, s.pass = some pass → pass.answer = some answer →
    s.saves = current :: older →
    unknownOutcomeFailure (answer.evidence (pass.action current.contract.operation).operation) = true →
    ∃ barrier ∈ (barrierStep verifyMaxAttempts s event).saves, ¬ barrier.Known

section Steps

variable {verifyMaxAttempts : Nat} {s : ResetRun} {event : ResetEvent}

private theorem safeReset_of_goesOn (hevent : event ≠ .record)
    (h : GoesOn s (barrierStep verifyMaxAttempts s event)) :
    RunOk (barrierStep verifyMaxAttempts s event) ∧ SafeReset verifyMaxAttempts s event :=
  ⟨h.ok, h.saves, .inl h.sent, h.reports, fun heq => absurd heq hevent⟩

private theorem goesOn_resetStart (request : ResetStart) (h : RunOk s) :
    GoesOn s (barrierStep verifyMaxAttempts s (.start request)) := by
  dsimp only [barrierStep]
  split
  · rename_i hstart
    simp only [Bool.and_eq_true, Bool.or_eq_true, beq_iff_eq, decide_eq_true_eq] at hstart
    refine goesOn_start request h hstart.2 fun hoperation => ?_
    rcases hstart.1.2 with h | h <;> rw [hoperation] at h <;> cases h
  · exact goesOn_refl h

private theorem goesOn_gateFails (reason : String) (h : RunOk s) :
    GoesOn s (barrierStep verifyMaxAttempts s (.gateFails reason)) := by
  dsimp only [barrierStep]
  split
  · exact goesOn_refl h
  · rcases h with ⟨hsaves, hpass⟩ | ⟨current, older, hsaves, hhistory, hpass⟩
    · rw [hsaves]
      exact goesOn_failed (.inl ⟨hsaves, rfl⟩) WorkflowStepStatus.noConfusion
    · rw [hsaves]
      exact goesOn_parked hhistory (follows_abort reason) rfl

private theorem safeReset_send (answer : NodeAnswer) (h : RunOk s) :
    RunOk (barrierStep verifyMaxAttempts s (.send answer)) ∧ SafeReset verifyMaxAttempts s (.send answer) := by
  have hstay : barrierStep verifyMaxAttempts s (.send answer) = s →
      RunOk (barrierStep verifyMaxAttempts s (.send answer)) ∧ SafeReset verifyMaxAttempts s (.send answer) := by
    intro heq
    refine safeReset_of_goesOn ResetEvent.noConfusion ?_
    rw [heq]
    exact goesOn_refl h
  rcases h with ⟨hsaves, hpass⟩ | ⟨current, older, hsaves, hhistory, hpass⟩
  · refine hstay ?_
    dsimp only [barrierStep]
    rw [hpass]
  · cases heq : s.pass with
    | none =>
      refine hstay ?_
      dsimp only [barrierStep]
      rw [heq]
    | some pass =>
      have hok := hpass pass heq
      by_cases hanswer : pass.answer.isSome = true
      · refine hstay ?_
        dsimp only [barrierStep]
        rw [heq, hsaves]
        dsimp only
        rw [if_pos hanswer]
      · have hstep : barrierStep verifyMaxAttempts s (.send answer) =
            { s with
              pass := some { pass with answer := some answer }
              sent := pass.action current.contract.operation :: s.sent } := by
          dsimp only [barrierStep]
          rw [heq, hsaves]
          dsimp only
          rw [if_neg hanswer]
        refine ⟨?_, ?_, ?_, ?_, fun hevent => ResetEvent.noConfusion hevent⟩
        · rw [hstep]
          refine .inr ⟨current, older, hsaves, hhistory, fun sending hsending => ?_⟩
          cases hsending
          exact ⟨hok.known, hok.reads, hok.nodup, hok.asks, hok.resets⟩
        · rw [hstep]
        · rw [hstep]
          exact .inr ⟨_, rfl, safeSend_of_passOk hhistory hok⟩
        · rw [hstep]
          exact .inl rfl

private theorem safeReset_record (h : RunOk s) :
    RunOk (barrierStep verifyMaxAttempts s .record) ∧ SafeReset verifyMaxAttempts s .record := by
  have hstay : barrierStep verifyMaxAttempts s .record = s → (∀ pass, s.pass = some pass → pass.answer = none) →
      RunOk (barrierStep verifyMaxAttempts s .record) ∧ SafeReset verifyMaxAttempts s .record := by
    intro heq hnone
    have hgoes : GoesOn s (barrierStep verifyMaxAttempts s .record) := by
      rw [heq]
      exact goesOn_refl h
    refine ⟨hgoes.ok, hgoes.saves, .inl hgoes.sent, hgoes.reports, ?_⟩
    intro _ pass answer _ _ hpass hanswer
    rw [hnone pass hpass] at hanswer
    cases hanswer
  rcases h with ⟨hsaves, hpass⟩ | ⟨current, older, hsaves, hhistory, hpass⟩
  · refine hstay ?_ fun pass heq => ?_
    · dsimp only [barrierStep]
      rw [hpass]
    · rw [hpass] at heq
      cases heq
  · cases heq : s.pass with
    | none =>
      refine hstay ?_ fun pass hsome => ?_
      · dsimp only [barrierStep]
        rw [heq]
      · rw [heq] at hsome
        cases hsome
    | some pass =>
      have hok := hpass pass heq
      cases hanswer : pass.answer with
      | none =>
        refine hstay ?_ fun other hsome => ?_
        · dsimp only [barrierStep]
          rw [heq, hsaves]
          dsimp only
          rw [hanswer]
        · rw [heq] at hsome
          cases hsome
          exact hanswer
      | some answer =>
        have hstep :
            barrierStep verifyMaxAttempts s .record = s.recordAnswer verifyMaxAttempts pass answer current := by
          dsimp only [barrierStep]
          rw [heq, hsaves]
          dsimp only
          rw [hanswer]
        have hgoes : GoesOn s (barrierStep verifyMaxAttempts s .record) := by
          rw [hstep]
          exact goesOn_recordAnswer hhistory hok answer
        refine ⟨hgoes.ok, hgoes.saves, .inl hgoes.sent, hgoes.reports, ?_⟩
        intro _ pass' answer' current' older' hpass' hanswer' hsaves' hunknown
        rw [heq] at hpass'
        cases hpass'
        rw [hanswer] at hanswer'
        cases hanswer'
        rw [hsaves] at hsaves'
        cases hsaves'
        rw [hstep]
        exact unknown_recordAnswer hhistory hok hunknown

private theorem goesOn_stop (h : RunOk s) : GoesOn s (barrierStep verifyMaxAttempts s .stop) :=
  ⟨runOk_idle h, List.suffix_rfl, rfl, .inl rfl⟩

private theorem safeReset_step (h : RunOk s) (event : ResetEvent) :
    RunOk (barrierStep verifyMaxAttempts s event) ∧ SafeReset verifyMaxAttempts s event := by
  cases event with
  | start request => exact safeReset_of_goesOn ResetEvent.noConfusion (goesOn_resetStart request h)
  | gateFails reason => exact safeReset_of_goesOn ResetEvent.noConfusion (goesOn_gateFails reason h)
  | send answer => exact safeReset_send answer h
  | record => exact safeReset_record h
  | stop => exact safeReset_of_goesOn ResetEvent.noConfusion (goesOn_stop h)

end Steps

/-- Over any passes with any stops and answers: every node is recorded prepared before one of them is reset, nothing
is sent once the barrier is aborted or an outcome unknown, no node is reset twice, and success means that all were
reset. -/
theorem prepared_before_any_reset (verifyMaxAttempts : Nat) (events : List ResetEvent) :
    Run.Along (barrierStep verifyMaxAttempts) (SafeReset verifyMaxAttempts) {} events :=
  Run.along_of_invariant (fun _ event hok _ => (safeReset_step hok event).1)
    (fun _ event hok _ => (safeReset_step hok event).2)
    (.inl ⟨rfl, rfl⟩) (Run.along_true _ events)

end GpuFaultRecovery
