import Mathlib.Data.List.Nodup
import Mathlib.Data.List.Perm.Subperm
import Mathlib.Order.Lattice
import GpuFaultRecovery.Run

/-!
# Group commit

Callers queue their entries; the first that finds nobody draining the queue drains it, batch by batch, until it is
empty, and the others wait for their entry's event. A caller that waits and finds nobody draining takes over; one that
runs out of time takes its entry back. Each block under the condition's lock is one step here, and so is a flush.

Entries are named after their callers. `arrivals` and `batches` record what was queued and what was handed to `flush`;
no step reads them.
-/

namespace GpuFaultRecovery

/-! ### The callers -/

/-- Where a call of `submit_group_commit` stands. -/
inductive CommitPhase
  | idle
  /-- In `_drain`, before it takes a batch. -/
  | draining
  | flushing (batch : List Nat)
  /-- In the `finally` of `_drain`. -/
  | leaving (raised : Bool)
  /-- At the head of the loop. -/
  | waiting
  /-- In the loop, with nothing to take over. -/
  | waited
  | returned
  | timedOut
  | raised
deriving DecidableEq, Repr

def CommitPhase.leads : CommitPhase → Bool
  | draining | flushing _ | leaving _ => true
  | _ => false

structure CommitWorld where
  queue : List Nat := []
  active : Bool := false
  phase : Nat → CommitPhase := fun _ => .idle
  event : Nat → Bool := fun _ => false
  arrivals : List Nat := []
  batches : List (List Nat) := []

inductive CommitInput
  | submit (caller : Nat)
  | take (caller : Nat)
  /-- A flush returns, or raises after it has set some of the events. -/
  | flush (caller : Nat) (raised : Option (List Nat))
  | release (caller : Nat)
  | check (caller : Nat)
  | again (caller : Nat)
  | expire (caller : Nat)
deriving DecidableEq, Repr

def CommitInput.caller : CommitInput → Nat
  | submit caller | take caller | flush caller _ | release caller | check caller | again caller | expire caller =>
    caller

def CommitWorld.goTo (s : CommitWorld) (caller : Nat) (phase : CommitPhase) : CommitWorld :=
  { s with phase := fun other => if other = caller then phase else s.phase other }

def commitStep (batchSize : Nat) (s : CommitWorld) : CommitInput → CommitWorld
  | .submit caller =>
    if s.phase caller = .idle then
      { s.goTo caller (if s.active then .waiting else .draining) with
        queue := s.queue ++ [caller]
        active := true
        arrivals := s.arrivals ++ [caller] }
    else s
  | .take caller =>
    if s.phase caller = .draining then
      let batch := s.queue.take batchSize
      if batch = [] then s.goTo caller (.leaving false)
      else
        { s.goTo caller (.flushing batch) with
          queue := s.queue.drop batch.length
          batches := s.batches ++ [batch] }
    else s
  | .flush caller raised =>
    match s.phase caller, raised with
    | .flushing batch, none =>
      { s.goTo caller .draining with event := fun entry => s.event entry || batch.contains entry }
    -- a flush that raises may have answered part of its batch
    | .flushing batch, some set =>
      { s.goTo caller (.leaving true) with
        event := fun entry => s.event entry || (batch.contains entry && set.contains entry) }
    | _, _ => s
  | .release caller =>
    match s.phase caller with
    | .leaving raised => { s.goTo caller (if raised then .raised else .waiting) with active := false }
    | _ => s
  | .check caller =>
    if s.phase caller = .waiting then
      if s.event caller then s.goTo caller .returned
      -- nobody drains what is left over: the caller promotes itself
      else if ¬ s.active ∧ s.queue ≠ [] then { s.goTo caller .draining with active := true }
      else s.goTo caller .waited
    else s
  | .again caller => if s.phase caller = .waited then s.goTo caller .waiting else s
  | .expire caller =>
    if s.phase caller = .waited then { s.goTo caller .timedOut with queue := s.queue.erase caller } else s

/-! ### What a step does -/

/-- What a caller that moves on makes of the flag: it stays what it is, it begins to drain where nobody does, or it
stops. -/
inductive LeadChange (before after : CommitPhase) (active active' : Bool) : Prop
  | same (hleads : after.leads = before.leads) (hactive : active' = active)
  | rise (hnone : active = false) (hleads : after.leads = true) (hactive : active' = true)
  | fall (hled : before.leads = true) (hleads : after.leads = false) (hactive : active' = false)

/-- A caller queues its entry, takes a batch, takes its entry back, or moves on without touching the queue. -/
inductive CommitMove (batchSize : Nat) (s : CommitWorld) : CommitWorld → Prop
  | stays : CommitMove batchSize s s
  | submits (caller : Nat) (phase : CommitPhase) (hidle : s.phase caller = .idle)
    (hphase : phase = .waiting ∨ phase = .draining) (hleads : LeadChange (s.phase caller) phase s.active true) :
    CommitMove batchSize s { s.goTo caller phase with
      queue := s.queue ++ [caller], active := true, arrivals := s.arrivals ++ [caller] }
  | takes (caller : Nat) (hdraining : s.phase caller = .draining) (hbatch : s.queue.take batchSize ≠ []) :
    CommitMove batchSize s { s.goTo caller (.flushing (s.queue.take batchSize)) with
      queue := s.queue.drop (s.queue.take batchSize).length, batches := s.batches ++ [s.queue.take batchSize] }
  | expires (caller : Nat) (hwaited : s.phase caller = .waited) :
    CommitMove batchSize s { s.goTo caller .timedOut with queue := s.queue.erase caller }
  | moves (caller : Nat) (phase : CommitPhase) (active : Bool) (event : Nat → Bool)
    (hbefore : s.phase caller ≠ .idle ∧ s.phase caller ≠ .timedOut)
    (hafter : phase ≠ .idle ∧ phase ≠ .timedOut ∧ ∀ batch, phase ≠ .flushing batch)
    (hreturned : phase = .returned → s.event caller = true)
    (hleads : LeadChange (s.phase caller) phase s.active active)
    (hkeeps : ∀ entry, s.event entry = true → event entry = true)
    (hsets : ∀ entry, event entry = true →
      s.event entry = true ∨ ∃ batch, s.phase caller = .flushing batch ∧ entry ∈ batch) :
    CommitMove batchSize s { s.goTo caller phase with active := active, event := event }

section Moves

variable {batchSize caller : Nat} {s s' : CommitWorld} {phase : CommitPhase}

private theorem commitMove_goTo (caller : Nat) (phase : CommitPhase) (active : Bool)
    (hbefore : s.phase caller ≠ .idle ∧ s.phase caller ≠ .timedOut)
    (hafter : phase ≠ .idle ∧ phase ≠ .timedOut ∧ ∀ batch, phase ≠ .flushing batch)
    (hreturned : phase = .returned → s.event caller = true)
    (hleads : LeadChange (s.phase caller) phase s.active active) :
    CommitMove batchSize s { s.goTo caller phase with active := active } :=
  .moves caller phase active s.event hbefore hafter hreturned hleads (fun _ h => h) fun _ h => .inl h

private theorem commitMove_commitStep (batchSize : Nat) (s : CommitWorld) (i : CommitInput) :
    CommitMove batchSize s (commitStep batchSize s i) := by
  cases i with
  | submit caller =>
    simp only [commitStep]
    split
    · rename_i hidle
      cases hactive : s.active with
      | true => exact .submits caller .waiting hidle (.inl rfl) (.same (by rw [hidle]; rfl) hactive.symm)
      | false => exact .submits caller .draining hidle (.inr rfl) (.rise hactive rfl rfl)
    · exact .stays
  | take caller =>
    simp only [commitStep]
    split
    · rename_i hdraining
      split
      · exact commitMove_goTo caller _ s.active (by simp [hdraining]) (by simp) (by simp)
          (.same (by rw [hdraining]; rfl) rfl)
      · rename_i hbatch
        exact .takes caller hdraining hbatch
    · exact .stays
  | flush caller raised =>
    simp only [commitStep]
    split
    · rename_i _ batch hflushing
      refine .moves caller .draining s.active _ (by simp [hflushing]) (by simp) (by simp)
        (.same (by rw [hflushing]; rfl) rfl) (fun entry h => by simp [h]) fun entry h => ?_
      rcases (Bool.or_eq_true _ _).mp h with h | h
      · exact .inl h
      · exact .inr ⟨batch, hflushing, by simpa using h⟩
    · rename_i _ batch set hflushing
      refine .moves caller (.leaving true) s.active _ (by simp [hflushing]) (by simp) (by simp)
        (.same (by rw [hflushing]; rfl) rfl) (fun entry h => by simp [h]) fun entry h => ?_
      rcases (Bool.or_eq_true _ _).mp h with h | h
      · exact .inl h
      · exact .inr ⟨batch, hflushing, by simpa using ((Bool.and_eq_true _ _).mp h).1⟩
    · exact .stays
  | release caller =>
    simp only [commitStep]
    split
    · rename_i raised hleaving
      refine commitMove_goTo caller _ false (by simp [hleaving]) ?_ ?_ (.fall (by rw [hleaving]; rfl) ?_ rfl)
      all_goals cases raised <;> simp [CommitPhase.leads]
    · exact .stays
  | check caller =>
    simp only [commitStep]
    split
    · rename_i hwaiting
      split
      · rename_i hevent
        exact commitMove_goTo caller .returned s.active (by simp [hwaiting]) (by simp) (fun _ => hevent)
          (.same (by rw [hwaiting]; rfl) rfl)
      · split
        · rename_i hnone
          exact commitMove_goTo caller .draining true (by simp [hwaiting]) (by simp) (by simp)
            (.rise (Bool.eq_false_iff.mpr hnone.1) rfl rfl)
        · exact commitMove_goTo caller .waited s.active (by simp [hwaiting]) (by simp) (by simp)
            (.same (by rw [hwaiting]; rfl) rfl)
    · exact .stays
  | again caller =>
    simp only [commitStep]
    split
    · rename_i hwaited
      exact commitMove_goTo caller .waiting s.active (by simp [hwaited]) (by simp) (by simp)
        (.same (by rw [hwaited]; rfl) rfl)
    · exact .stays
  | expire caller =>
    simp only [commitStep]
    split
    · rename_i hwaited
      exact .expires caller hwaited
    · exact .stays

end Moves

/-! ### Who drains -/

/-- At most one caller drains the queue, and the flag says whether one does. -/
structure LeaderOk (s : CommitWorld) : Prop where
  active : ∀ caller, (s.phase caller).leads = true → s.active = true
  unique : ∀ caller other, (s.phase caller).leads = true → (s.phase other).leads = true → caller = other
  led : s.active = true → ∃ caller, (s.phase caller).leads = true

section Leader

variable {batchSize caller : Nat} {s s' : CommitWorld} {phase : CommitPhase}

private theorem LeaderOk.change (h : LeaderOk s)
    (hphase : ∀ other, s'.phase other = if other = caller then phase else s.phase other)
    (hchange : LeadChange (s.phase caller) phase s.active s'.active) : LeaderOk s' := by
  cases hchange with
  | same hleads hactive =>
    have hall : ∀ other, (s'.phase other).leads = (s.phase other).leads := by
      intro other
      rw [hphase]
      split
      · rename_i he
        rw [he, hleads]
      · rfl
    refine ⟨fun other hother => ?_, fun one other hone hother => ?_, fun hact => ?_⟩
    · rw [hactive]
      exact h.active other (hall other ▸ hother)
    · exact h.unique one other (hall one ▸ hone) (hall other ▸ hother)
    · obtain ⟨other, hother⟩ := h.led (hactive ▸ hact)
      exact ⟨other, (hall other).trans hother⟩
  | rise hnone hleads hactive =>
    have honly : ∀ other, (s'.phase other).leads = true → other = caller := by
      intro other hother
      by_contra hne
      rw [hphase, if_neg hne] at hother
      have := h.active other hother
      rw [hnone] at this
      cases this
    refine ⟨fun _ _ => hactive, fun one other hone hother => ?_, fun _ => ⟨caller, ?_⟩⟩
    · rw [honly one hone, honly other hother]
    · rw [hphase, if_pos rfl, hleads]
  | fall hled hleads hactive =>
    have hnone : ∀ other, (s'.phase other).leads = false := by
      intro other
      rw [hphase]
      split
      · exact hleads
      · rename_i hne
        by_contra hother
        exact hne (h.unique other caller (Bool.eq_true_of_not_eq_false hother) hled)
    refine ⟨fun other hother => ?_, fun one other hone => ?_, fun hact => ?_⟩
    · rw [hnone other] at hother
      cases hother
    · rw [hnone one] at hone
      cases hone
    · rw [hactive] at hact
      cases hact

private theorem LeaderOk.move (h : LeaderOk s) (hmove : CommitMove batchSize s s') : LeaderOk s' := by
  cases hmove with
  | stays => exact h
  | submits caller phase _ _ hleads => exact h.change (fun _ => rfl) hleads
  | takes caller hdraining _ => exact h.change (fun _ => rfl) (.same (by rw [hdraining]; rfl) rfl)
  | expires caller hwaited => exact h.change (fun _ => rfl) (.same (by rw [hwaited]; rfl) rfl)
  | moves caller phase active event _ _ _ hleads => exact h.change (fun _ => rfl) hleads

end Leader

/-! ### What becomes of the entries -/

/-- What holds of a caller and its entry. -/
structure CallerOk (s : CommitWorld) (caller : Nat) (phase : CommitPhase) : Prop where
  arrived : caller ∈ s.arrivals ↔ phase ≠ .idle
  /-- No entry is lost: it is queued, it was handed to `flush`, or its caller took it back. -/
  kept : caller ∈ s.arrivals → caller ∈ s.queue ∨ caller ∈ s.batches.flatten ∨ phase = .timedOut
  queued : caller ∈ s.queue → phase ≠ .timedOut
  flushing : ∀ batch, phase = .flushing batch → batch ∈ s.batches
  returned : phase = .returned → s.event caller = true

/-- What holds of the entries in every run. -/
structure EntriesOk (batchSize : Nat) (s : CommitWorld) : Prop where
  /-- Entries are handed to `flush` in the order they were queued, each at most once. -/
  order : (s.batches.flatten ++ s.queue).Sublist s.arrivals
  nodup : s.arrivals.Nodup
  sizes : ∀ batch ∈ s.batches, batch ≠ [] ∧ batch.length ≤ batchSize
  flushed : ∀ entry, s.event entry = true → entry ∈ s.batches.flatten
  callers : ∀ caller, CallerOk s caller (s.phase caller)

section Entries

variable {batchSize caller entry : Nat} {s s' : CommitWorld} {phase : CommitPhase}

private theorem EntriesOk.empty : EntriesOk batchSize {} where
  order := List.Sublist.refl _
  nodup := List.nodup_nil
  sizes _ h := by cases h
  flushed _ h := by cases h
  callers caller := by constructor <;> simp

private theorem EntriesOk.nodup_all (h : EntriesOk batchSize s) : (s.batches.flatten ++ s.queue).Nodup :=
  h.nodup.sublist h.order

private theorem EntriesOk.nodup_queue (h : EntriesOk batchSize s) : s.queue.Nodup :=
  (List.nodup_append.mp h.nodup_all).2.1

private theorem EntriesOk.not_mem_queue (h : EntriesOk batchSize s) (hmem : entry ∈ s.batches.flatten) :
    entry ∉ s.queue :=
  fun hin => (List.nodup_append.mp h.nodup_all).2.2 entry hmem entry hin rfl

private theorem EntriesOk.mem_arrivals (h : EntriesOk batchSize s) (hin : entry ∈ s.queue) : entry ∈ s.arrivals :=
  h.order.subset (List.mem_append_right _ hin)

private theorem callers_of_goTo (hphase : ∀ other, s'.phase other = if other = caller then phase else s.phase other)
    (hself : CallerOk s' caller phase) (hothers : ∀ other, other ≠ caller → CallerOk s' other (s.phase other)) :
    ∀ other, CallerOk s' other (s'.phase other) := by
  intro other
  rw [hphase]
  split
  · rename_i he
    rw [he]
    exact hself
  · rename_i hne
    exact hothers other hne

private theorem EntriesOk.submits (h : EntriesOk batchSize s) (hidle : s.phase caller = .idle)
    (hphase : phase = .waiting ∨ phase = .draining) :
    EntriesOk batchSize { s.goTo caller phase with
      queue := s.queue ++ [caller], active := true, arrivals := s.arrivals ++ [caller] } := by
  have hnew : caller ∉ s.arrivals := fun hin => (h.callers caller).arrived.mp hin hidle
  refine ⟨?_, ?_, h.sizes, h.flushed, callers_of_goTo (fun _ => rfl) ?_ fun other hne => ?_⟩
  · change (s.batches.flatten ++ (s.queue ++ [caller])).Sublist (s.arrivals ++ [caller])
    rw [← List.append_assoc]
    exact h.order.append_right [caller]
  · exact List.nodup_append.mpr ⟨h.nodup, List.nodup_singleton caller, fun a ha b hb he => hnew (by
      rw [← List.mem_singleton.mp hb, ← he]
      exact ha)⟩
  · have hin : caller ∈ s.queue ++ [caller] := by simp
    have harrived : caller ∈ s.arrivals ++ [caller] := by simp
    rcases hphase with rfl | rfl
    · exact ⟨iff_of_true harrived (by simp), fun _ => .inl hin, by simp, by simp, by simp⟩
    · exact ⟨iff_of_true harrived (by simp), fun _ => .inl hin, by simp, by simp, by simp⟩
  · have hother := h.callers other
    have harrived : other ∈ s.arrivals ++ [caller] ↔ other ∈ s.arrivals := by simp [hne]
    refine ⟨harrived.trans hother.arrived, fun hin => ?_, fun hin => hother.queued ?_, hother.flushing,
      hother.returned⟩
    · rcases hother.kept (harrived.mp hin) with hin | hrest
      · exact .inl (List.mem_append_left _ hin)
      · exact .inr hrest
    · rcases List.mem_append.mp hin with hin | hin
      · exact hin
      · exact absurd (List.mem_singleton.mp hin) hne

private theorem EntriesOk.takes (h : EntriesOk batchSize s) (hdraining : s.phase caller = .draining)
    (hbatch : s.queue.take batchSize ≠ []) :
    EntriesOk batchSize { s.goTo caller (.flushing (s.queue.take batchSize)) with
      queue := s.queue.drop (s.queue.take batchSize).length
      batches := s.batches ++ [s.queue.take batchSize] } := by
  have hsplit : s.queue.take batchSize ++ s.queue.drop (s.queue.take batchSize).length = s.queue := by
    rw [List.length_take]
    rcases Nat.le_total batchSize s.queue.length with hle | hle
    · rw [Nat.min_eq_left hle, List.take_append_drop]
    · rw [Nat.min_eq_right hle, List.take_of_length_le hle, List.drop_length, List.append_nil]
  have hflatten : (s.batches ++ [s.queue.take batchSize]).flatten = s.batches.flatten ++ s.queue.take batchSize := by
    simp
  -- a queued entry is in the batch or stays behind
  have hkept : ∀ other, other ∈ s.queue ∨ other ∈ s.batches.flatten →
      other ∈ s.queue.drop (s.queue.take batchSize).length ∨
        other ∈ (s.batches ++ [s.queue.take batchSize]).flatten := by
    intro other hin
    rw [hflatten, List.mem_append]
    rcases hin with hin | hin
    · rw [← hsplit] at hin
      rcases List.mem_append.mp hin with hin | hin
      · exact .inr (.inr hin)
      · exact .inl hin
    · exact .inr (.inl hin)
  refine ⟨?_, h.nodup, fun batch hmem => ?_, fun entry hentry => ?_,
    callers_of_goTo (fun _ => rfl) ?_ fun other hne => ?_⟩
  · change ((s.batches ++ [s.queue.take batchSize]).flatten ++ s.queue.drop (s.queue.take batchSize).length).Sublist _
    rw [hflatten, List.append_assoc, hsplit]
    exact h.order
  · rcases List.mem_append.mp hmem with hmem | hmem
    · exact h.sizes batch hmem
    · rw [List.mem_singleton.mp hmem]
      exact ⟨hbatch, List.length_take_le _ _⟩
  · change entry ∈ (s.batches ++ [_]).flatten
    rw [hflatten]
    exact List.mem_append_left _ (h.flushed entry hentry)
  · have hself := h.callers caller
    rw [hdraining] at hself
    refine ⟨iff_of_true (hself.arrived.mpr (by simp)) (by simp), fun hin => ?_, by simp, fun batch he => ?_, by simp⟩
    · rcases hself.kept hin with hin | hin | hout
      · exact (hkept caller (.inl hin)).imp_right .inl
      · exact (hkept caller (.inr hin)).imp_right .inl
      · cases hout
    · rw [CommitPhase.flushing.inj he]
      exact List.mem_append_right _ (List.mem_singleton.mpr rfl)
  · have hother := h.callers other
    refine ⟨hother.arrived, fun hin => ?_, fun hin => hother.queued (List.mem_of_mem_drop hin),
      fun batch he => List.mem_append_left _ (hother.flushing batch he), hother.returned⟩
    rcases hother.kept hin with hin | hin | hout
    · exact (hkept other (.inl hin)).imp_right .inl
    · exact (hkept other (.inr hin)).imp_right .inl
    · exact .inr (.inr hout)

private theorem EntriesOk.expires (h : EntriesOk batchSize s) (hwaited : s.phase caller = .waited) :
    EntriesOk batchSize { s.goTo caller .timedOut with queue := s.queue.erase caller } := by
  refine ⟨((List.Sublist.refl _).append List.erase_sublist).trans h.order, h.nodup, h.sizes, h.flushed,
    callers_of_goTo (fun _ => rfl) ?_ fun other hne => ?_⟩
  · have harrived := (h.callers caller).arrived.mpr (by simp [hwaited])
    refine ⟨iff_of_true harrived (by simp), fun _ => .inr (.inr rfl), fun hin => ?_, by simp, by simp⟩
    exact absurd rfl (h.nodup_queue.mem_erase_iff.mp hin).1
  · have hother := h.callers other
    refine ⟨hother.arrived, fun hin => ?_, fun hin => hother.queued (List.mem_of_mem_erase hin), hother.flushing,
      hother.returned⟩
    change other ∈ s.queue.erase caller ∨ _
    rw [List.mem_erase_of_ne hne]
    exact hother.kept hin

private theorem EntriesOk.move (h : EntriesOk batchSize s) (hmove : CommitMove batchSize s s') :
    EntriesOk batchSize s' := by
  cases hmove with
  | stays => exact h
  | submits caller phase hidle hphase _ => exact h.submits hidle hphase
  | takes caller hdraining hbatch => exact h.takes hdraining hbatch
  | expires caller hwaited => exact h.expires hwaited
  | moves caller phase active event hbefore hafter hreturned _ hkeeps hsets =>
    refine ⟨h.order, h.nodup, h.sizes, fun entry hentry => ?_, callers_of_goTo (fun _ => rfl) ?_ fun other _ => ?_⟩
    · rcases hsets entry hentry with hentry | ⟨batch, hflushing, hin⟩
      · exact h.flushed entry hentry
      · exact List.mem_flatten.mpr ⟨batch, (h.callers caller).flushing batch hflushing, hin⟩
    · have hself := h.callers caller
      refine ⟨iff_of_true (hself.arrived.mpr hbefore.1) hafter.1, fun hin => ?_, fun _ => hafter.2.1,
        fun batch he => absurd he (hafter.2.2 batch), fun he => hkeeps caller (hreturned he)⟩
      rcases hself.kept hin with hin | hin | hout
      · exact .inl hin
      · exact .inr (.inl hin)
      · exact absurd hout hbefore.2
    · have hother := h.callers other
      exact ⟨hother.arrived, hother.kept, hother.queued, hother.flushing, fun he => hkeeps other (hother.returned he)⟩

private theorem EntriesOk.step (h : EntriesOk batchSize s) (i : CommitInput) :
    EntriesOk batchSize (commitStep batchSize s i) :=
  h.move (commitMove_commitStep batchSize s i)

end Entries

/-! ### Runs -/

section Runs

variable {batchSize caller entry : Nat} {s : CommitWorld}

private theorem leaderOk_empty : LeaderOk {} where
  active _ h := by cases h
  unique _ _ h := by cases h
  led h := by cases h

private theorem commitOk_exec {s : CommitWorld} (hleader : LeaderOk s) (hentries : EntriesOk batchSize s)
    (l : List CommitInput) :
    LeaderOk (Run.exec (commitStep batchSize) s l) ∧ EntriesOk batchSize (Run.exec (commitStep batchSize) s l) :=
  Run.invariant_exec (I := fun s => LeaderOk s ∧ EntriesOk batchSize s) (P := fun _ _ => True)
    (fun s i hs _ => ⟨hs.1.move (commitMove_commitStep batchSize s i), hs.2.step i⟩) ⟨hleader, hentries⟩
    (Run.along_true s l)

/-- In every run at most one caller drains; entries are handed to `flush` in the order they were queued, each at most
once, in batches within the bound; none is lost; a call that returns has its entry flushed, one that timed out has its
entry out of the queue; and while nobody drains, whoever has an entry in the queue is still in its loop, unless its
flush raised. -/
theorem group_commit_hands_over_in_order (batchSize : Nat) (l : List CommitInput) :
    let s := Run.exec (commitStep batchSize) {} l
    (∀ caller other, (s.phase caller).leads = true → (s.phase other).leads = true → caller = other) ∧
      s.batches.flatten.Sublist s.arrivals ∧ s.arrivals.Nodup ∧
      (∀ batch ∈ s.batches, batch ≠ [] ∧ batch.length ≤ batchSize) ∧
      (∀ entry ∈ s.arrivals, entry ∈ s.queue ∨ entry ∈ s.batches.flatten ∨ s.phase entry = .timedOut) ∧
      (∀ caller, s.phase caller = .returned → s.event caller = true ∧ caller ∈ s.batches.flatten) ∧
      (∀ caller, s.phase caller = .timedOut → caller ∉ s.queue) ∧
      (s.active = false → ∀ caller ∈ s.queue,
        s.phase caller = .waiting ∨ s.phase caller = .waited ∨ s.phase caller = .raised) := by
  intro s
  obtain ⟨hleader, hentries⟩ : LeaderOk s ∧ EntriesOk batchSize s := commitOk_exec leaderOk_empty EntriesOk.empty l
  refine ⟨hleader.unique, (List.sublist_append_left _ _).trans hentries.order, hentries.nodup, hentries.sizes,
    fun caller => (hentries.callers caller).kept, fun caller hreturned => ?_,
    fun caller htimedOut hin => (hentries.callers caller).queued hin htimedOut, fun hnone caller hin => ?_⟩
  · have hevent := (hentries.callers caller).returned hreturned
    exact ⟨hevent, hentries.flushed caller hevent⟩
  · have hnot : (s.phase caller).leads ≠ true := fun hleads => by
      have hactive := hleader.active caller hleads
      rw [hnone] at hactive
      cases hactive
    have hidle : s.phase caller ≠ .idle := (hentries.callers caller).arrived.mp (hentries.mem_arrivals hin)
    have hqueued := (hentries.callers caller).queued hin
    have hreturned : s.phase caller ≠ .returned := fun hreturned =>
      hentries.not_mem_queue (hentries.flushed caller ((hentries.callers caller).returned hreturned)) hin
    cases hphase : s.phase caller with
    | waiting => exact .inl rfl
    | waited => exact .inr (.inl rfl)
    | raised => exact .inr (.inr rfl)
    | idle => exact absurd hphase hidle
    | timedOut => exact absurd hphase hqueued
    | returned => exact absurd hphase hreturned
    | draining => exact absurd (by rw [hphase]; rfl) hnot
    | flushing batch => exact absurd (by rw [hphase]; rfl) hnot
    | leaving raised => exact absurd (by rw [hphase]; rfl) hnot

/-! ### How long an entry waits -/

private theorem idxOf_le_of_sublist {l l' : List Nat} (hsub : l.Sublist l') (hnodup : l'.Nodup) (hin : entry ∈ l) :
    l.idxOf entry ≤ l'.idxOf entry := by
  induction hsub with
  | slnil => cases hin
  | @cons l l' a hsub ih =>
    have hne : a ≠ entry := fun he => (List.nodup_cons.mp hnodup).1 (he ▸ hsub.subset hin)
    rw [List.idxOf_cons_ne _ hne]
    have := ih (List.nodup_cons.mp hnodup).2 hin
    omega
  | @cons_cons l l' a hsub ih =>
    by_cases he : a = entry
    · subst he
      simp
    · rw [List.idxOf_cons_ne _ he, List.idxOf_cons_ne _ he]
      have := ih (List.nodup_cons.mp hnodup).2 ((List.mem_cons.mp hin).resolve_left fun h => he h.symm)
      omega

private theorem idxOf_drop_batch {queue : List Nat} (hnodup : queue.Nodup)
    (hin : entry ∈ queue.drop (queue.take batchSize).length) :
    (queue.drop (queue.take batchSize).length).idxOf entry + batchSize = queue.idxOf entry := by
  have hlen : (queue.take batchSize).length = batchSize := by
    rw [List.length_take]
    rcases Nat.le_total batchSize queue.length with hle | hle
    · exact Nat.min_eq_left hle
    · rw [List.length_take, Nat.min_eq_right hle, List.drop_length] at hin
      cases hin
  rw [hlen] at hin ⊢
  have hsplit := List.take_append_drop batchSize queue
  have hnot : entry ∉ queue.take batchSize := fun h => by
    rw [← hsplit] at hnodup
    exact (List.nodup_append.mp hnodup).2.2 entry h entry hin rfl
  have hidx : (queue.take batchSize ++ queue.drop batchSize).idxOf entry = _ := List.idxOf_append_of_notMem hnot
  rw [hsplit, hlen] at hidx
  omega

private theorem mem_queue_of_move {s' : CommitWorld} (hmove : CommitMove batchSize s s')
    (harrived : s.phase entry ≠ .idle) (hin : entry ∈ s'.queue) : entry ∈ s.queue := by
  cases hmove with
  | stays => exact hin
  | submits caller phase hidle =>
    rcases List.mem_append.mp hin with hin | hin
    · exact hin
    · rw [List.mem_singleton.mp hin] at harrived
      exact absurd hidle harrived
  | takes => exact List.mem_of_mem_drop hin
  | expires => exact List.mem_of_mem_erase hin
  | moves => exact hin

/-- While an entry is queued, each batch that is taken brings it a batch nearer to the front, and nothing puts it
back. -/
private theorem ahead_move {s' : CommitWorld} (hmove : CommitMove batchSize s s') (h : EntriesOk batchSize s)
    (hin : entry ∈ s.queue) (hin' : entry ∈ s'.queue) :
    s.batches.length ≤ s'.batches.length ∧
      (s'.batches.length - s.batches.length) * batchSize + s'.queue.idxOf entry ≤ s.queue.idxOf entry := by
  cases hmove with
  | stays => simp
  | submits caller =>
    refine ⟨le_rfl, ?_⟩
    change (s.batches.length - s.batches.length) * batchSize + (s.queue ++ [caller]).idxOf entry ≤ _
    rw [List.idxOf_append_of_mem hin]
    simp
  | takes =>
    have hmoved := idxOf_drop_batch h.nodup_queue hin'
    change s.batches.length ≤ (s.batches ++ [_]).length ∧
      ((s.batches ++ [_]).length - s.batches.length) * batchSize + (s.queue.drop _).idxOf entry ≤ _
    rw [List.length_append, List.length_singleton, Nat.add_sub_cancel_left]
    omega
  | expires caller =>
    refine ⟨le_rfl, ?_⟩
    change (s.batches.length - s.batches.length) * batchSize + (s.queue.erase caller).idxOf entry ≤ _
    have hle := idxOf_le_of_sublist List.erase_sublist h.nodup_queue hin'
    rw [Nat.sub_self]
    omega
  | moves =>
    change s.batches.length ≤ s.batches.length ∧
      (s.batches.length - s.batches.length) * batchSize + s.queue.idxOf entry ≤ _
    simp

private theorem arrivals_move {s' : CommitWorld} (hmove : CommitMove batchSize s s') : s.arrivals ⊆ s'.arrivals := by
  cases hmove with
  | submits => exact List.subset_append_left _ _
  | _ => exact List.Subset.refl _

private theorem mem_queue_of_exec (h : EntriesOk batchSize s) (harrived : entry ∈ s.arrivals) {l : List CommitInput}
    (hin : entry ∈ (Run.exec (commitStep batchSize) s l).queue) : entry ∈ s.queue := by
  induction l generalizing s with
  | nil => exact hin
  | cons i l ih =>
    have hmove := commitMove_commitStep batchSize s i
    exact mem_queue_of_move hmove ((h.callers entry).arrived.mp harrived)
      (ih (h.step i) (arrivals_move hmove harrived) hin)

private theorem ahead_exec (h : EntriesOk batchSize s) (hin : entry ∈ s.queue) {l : List CommitInput}
    (hin' : entry ∈ (Run.exec (commitStep batchSize) s l).queue) :
    s.batches.length ≤ (Run.exec (commitStep batchSize) s l).batches.length ∧
      ((Run.exec (commitStep batchSize) s l).batches.length - s.batches.length) * batchSize +
        (Run.exec (commitStep batchSize) s l).queue.idxOf entry ≤ s.queue.idxOf entry := by
  induction l generalizing s with
  | nil => simp
  | cons i l ih =>
    rw [Run.exec_cons] at hin' ⊢
    have hmove := commitMove_commitStep batchSize s i
    have hone : entry ∈ (commitStep batchSize s i).queue :=
      mem_queue_of_exec (h.step i) (arrivals_move hmove (h.mem_arrivals hin)) hin'
    obtain ⟨hmore, hnear⟩ := ahead_move hmove h hin hone
    obtain ⟨hmore', hnear'⟩ := ih (h.step i) hone hin'
    refine ⟨hmore.trans hmore', ?_⟩
    have hsum : (Run.exec (commitStep batchSize) (commitStep batchSize s i) l).batches.length - s.batches.length =
        ((commitStep batchSize s i).batches.length - s.batches.length) +
          ((Run.exec (commitStep batchSize) (commitStep batchSize s i) l).batches.length -
            (commitStep batchSize s i).batches.length) := by
      omega
    rw [hsum, Nat.add_mul]
    omega

/-- `rounds` batches, taken and flushed by one caller. -/
def drainRounds (caller rounds : Nat) : List CommitInput :=
  (List.replicate rounds [CommitInput.take caller, CommitInput.flush caller none]).flatten

private theorem event_move {s' : CommitWorld} (hmove : CommitMove batchSize s s') (hevent : s.event entry = true) :
    s'.event entry = true := by
  cases hmove with
  | moves caller phase active event _ _ _ _ hkeeps => exact hkeeps entry hevent
  | _ => exact hevent

private theorem event_exec (hevent : s.event entry = true) (l : List CommitInput) :
    (Run.exec (commitStep batchSize) s l).event entry = true :=
  Run.invariant_exec (I := fun s => s.event entry = true) (P := fun _ _ => True)
    (fun s i hs _ => event_move (commitMove_commitStep batchSize s i) hs) hevent (Run.along_true s l)

/-- What a caller that drains has yet to do until its own entry is flushed. -/
inductive DrainLeft (batchSize : Nat) (s : CommitWorld) (caller : Nat) : List CommitInput → Prop
  | take (rounds : Nat) (hdraining : s.phase caller = .draining) (hin : caller ∈ s.queue)
    (hrounds : s.queue.idxOf caller < rounds * batchSize) : DrainLeft batchSize s caller (drainRounds caller rounds)
  | flush (rounds : Nat) (batch : List Nat) (hflushing : s.phase caller = .flushing batch)
    (hentry : caller ∈ batch ∨ caller ∈ s.queue ∧ s.queue.idxOf caller < rounds * batchSize) :
    DrainLeft batchSize s caller (.flush caller none :: drainRounds caller rounds)

private theorem DrainLeft.leads {todo : List CommitInput} (h : DrainLeft batchSize s caller todo) :
    (s.phase caller).leads = true := by
  cases h with
  | take rounds hdraining => rw [hdraining]; rfl
  | flush rounds batch hflushing => rw [hflushing]; rfl

private theorem drainRounds_succ (caller rounds : Nat) :
    drainRounds caller (rounds + 1) = .take caller :: .flush caller none :: drainRounds caller rounds := by
  rw [drainRounds, List.replicate_succ, List.flatten_cons]
  rfl

/-- The steps of the others leave a caller that drains where it is, and its entry in the queue. -/
private theorem commitStep_other (h : LeaderOk s) (hleads : (s.phase caller).leads = true) {i : CommitInput}
    (hother : i.caller ≠ caller) :
    (commitStep batchSize s i).phase caller = s.phase caller ∧
      (caller ∈ s.queue → caller ∈ (commitStep batchSize s i).queue) := by
  cases i with
  | submit other =>
    simp only [commitStep]
    split
    · exact ⟨if_neg (Ne.symm hother), List.mem_append_left _⟩
    · exact ⟨rfl, id⟩
  | take other =>
    -- nobody else drains
    have hnot : s.phase other ≠ .draining :=
      fun hdraining => hother (h.unique other caller (by rw [hdraining]; rfl) hleads)
    simp only [commitStep]
    rw [if_neg hnot]
    exact ⟨rfl, id⟩
  | flush other raised =>
    simp only [commitStep]
    split
    · exact ⟨if_neg (Ne.symm hother), id⟩
    · exact ⟨if_neg (Ne.symm hother), id⟩
    · exact ⟨rfl, id⟩
  | release other =>
    simp only [commitStep]
    split
    · exact ⟨if_neg (Ne.symm hother), id⟩
    · exact ⟨rfl, id⟩
  | check other =>
    simp only [commitStep]
    split
    · split
      · exact ⟨if_neg (Ne.symm hother), id⟩
      · split
        · exact ⟨if_neg (Ne.symm hother), id⟩
        · exact ⟨if_neg (Ne.symm hother), id⟩
    · exact ⟨rfl, id⟩
  | again other =>
    simp only [commitStep]
    split
    · exact ⟨if_neg (Ne.symm hother), id⟩
    · exact ⟨rfl, id⟩
  | expire other =>
    simp only [commitStep]
    split
    · exact ⟨if_neg (Ne.symm hother), (List.mem_erase_of_ne (Ne.symm hother)).mpr⟩
    · exact ⟨rfl, id⟩

private theorem DrainLeft.other (hleader : LeaderOk s) (hentries : EntriesOk batchSize s) {todo : List CommitInput}
    (h : DrainLeft batchSize s caller todo) {i : CommitInput} (hother : i.caller ≠ caller) :
    DrainLeft batchSize (commitStep batchSize s i) caller todo := by
  obtain ⟨hphase, hqueue⟩ : (commitStep batchSize s i).phase caller = s.phase caller ∧
      (caller ∈ s.queue → caller ∈ (commitStep batchSize s i).queue) := commitStep_other hleader h.leads hother
  have hnear : caller ∈ s.queue → (commitStep batchSize s i).queue.idxOf caller ≤ s.queue.idxOf caller := by
    intro hin
    have := (ahead_move (commitMove_commitStep batchSize s i) hentries hin (hqueue hin)).2
    omega
  cases h with
  | take rounds hdraining hin hrounds =>
    exact .take rounds (hphase.trans hdraining) (hqueue hin) ((hnear hin).trans_lt hrounds)
  | flush rounds batch hflushing hentry =>
    refine .flush rounds batch (hphase.trans hflushing) (hentry.imp_right fun hin => ?_)
    exact ⟨hqueue hin.1, (hnear hin.1).trans_lt hin.2⟩

/-- The next step of a caller that drains: it flushes its own entry or brings it a batch nearer to the front. -/
private theorem DrainLeft.own (hsize : 0 < batchSize) (hentries : EntriesOk batchSize s) {i : CommitInput}
    {todo : List CommitInput} (h : DrainLeft batchSize s caller (i :: todo)) :
    (commitStep batchSize s i).event caller = true ∨ DrainLeft batchSize (commitStep batchSize s i) caller todo := by
  generalize htodo : i :: todo = all at h
  cases h with
  | take rounds hdraining hin hrounds =>
    cases rounds with
    | zero => omega
    | succ rounds =>
      rw [drainRounds_succ] at htodo
      cases htodo
      have hbatch : s.queue.take batchSize ≠ [] := by
        rw [ne_eq, List.take_eq_nil_iff]
        rintro (hempty | hempty)
        · omega
        · rw [hempty] at hin
          cases hin
      right
      simp only [commitStep]
      rw [if_pos hdraining, if_neg hbatch]
      refine .flush rounds (s.queue.take batchSize) (if_pos rfl) ?_
      rw [← List.take_append_drop (s.queue.take batchSize).length s.queue] at hin
      rcases List.mem_append.mp hin with hin | hbehind
      · rw [List.length_take, ← List.take_take, List.take_length] at hin
        exact .inl hin
      · have hmoved := idxOf_drop_batch hentries.nodup_queue hbehind
        rw [Nat.succ_mul] at hrounds
        exact .inr ⟨hbehind, by change (s.queue.drop _).idxOf caller < _; omega⟩
  | flush rounds batch hflushing hentry =>
    cases htodo
    simp only [commitStep, hflushing]
    rcases hentry with hin | hbehind
    · exact .inl ((Bool.or_eq_true _ _).mpr (.inr (by simpa using hin)))
    · exact .inr (.take rounds (if_pos rfl) hbehind.1 hbehind.2)

/-- A caller that drains has flushed its own entry once it has done what it had left to do, whatever the others do in
between. -/
private theorem DrainLeft.exec (hsize : 0 < batchSize) (hleader : LeaderOk s) (hentries : EntriesOk batchSize s)
    {steps : List CommitInput} (h : DrainLeft batchSize s caller (steps.filter (·.caller == caller))) :
    (Run.exec (commitStep batchSize) s steps).event caller = true := by
  induction steps generalizing s with
  | nil =>
    generalize htodo : [].filter _ = todo at h
    cases h with
    | take rounds hdraining hin hrounds =>
      cases rounds with
      | zero => omega
      | succ rounds =>
        rw [drainRounds_succ] at htodo
        cases htodo
    | flush => cases htodo
  | cons i steps ih =>
    have hleader' := hleader.move (commitMove_commitStep batchSize s i)
    rw [Run.exec_cons]
    by_cases hown : i.caller = caller
    · rw [List.filter_cons_of_pos (by simpa using hown)] at h
      rcases h.own hsize hentries with hevent | hleft
      · exact event_exec hevent steps
      · exact ih hleader' (hentries.step i) hleft
    · rw [List.filter_cons_of_neg (by simpa using hown)] at h
      exact ih hleader' (hentries.step i) (h.other hleader hentries hown)

/-- In every run an entry that is queued waits for no more batches than stand before it, whoever drains and whatever
is queued behind it; and a caller in its loop that finds nobody draining flushes its own entry in that many batches,
whatever the other callers do in between. -/
theorem group_commit_bounded_wait (batchSize : Nat) (hsize : 0 < batchSize) (l l' : List CommitInput) (entry : Nat)
    (hin : entry ∈ (Run.exec (commitStep batchSize) {} l).queue) :
    let s := Run.exec (commitStep batchSize) {} l
    let s' := Run.exec (commitStep batchSize) s l'
    (entry ∈ s'.queue → (s'.batches.length - s.batches.length) * batchSize ≤ s.queue.idxOf entry) ∧
      (s.active = false → s.phase entry = .waiting → ∀ steps : List CommitInput,
        steps.filter (·.caller == entry) = drainRounds entry (s.queue.idxOf entry / batchSize + 1) →
        (Run.exec (commitStep batchSize) s (.check entry :: steps)).event entry = true) := by
  intro s s'
  obtain ⟨hleader, hentries⟩ : LeaderOk s ∧ EntriesOk batchSize s := commitOk_exec leaderOk_empty EntriesOk.empty l
  refine ⟨fun hin' => ?_, fun hnone hwaiting steps hsteps => ?_⟩
  · exact (Nat.le_add_right _ _).trans (ahead_exec hentries hin hin').2
  · have hevent : s.event entry ≠ true := fun hevent => hentries.not_mem_queue (hentries.flushed entry hevent) hin
    have hne : s.queue ≠ [] := List.ne_nil_of_mem hin
    have hcheck : commitStep batchSize s (.check entry) = { s.goTo entry .draining with active := true } := by
      simp only [commitStep]
      rw [if_pos hwaiting, if_neg hevent, if_pos ⟨by simp [hnone], hne⟩]
    have hrounds : s.queue.idxOf entry < (s.queue.idxOf entry / batchSize + 1) * batchSize := by
      rw [Nat.succ_mul]
      have hdiv := Nat.div_add_mod (s.queue.idxOf entry) batchSize
      have hmod := Nat.mod_lt (s.queue.idxOf entry) hsize
      rw [Nat.mul_comm] at hdiv
      omega
    have hleader' := hleader.move (commitMove_commitStep batchSize s (.check entry))
    refine DrainLeft.exec hsize hleader' (hentries.step (.check entry)) ?_
    rw [hsteps, hcheck]
    exact .take _ (if_pos rfl) hin hrounds

/-- Two callers queue, the first drains for nobody but itself, and the second is left in the queue when it leaves. It
then drains while a third caller queues and the first goes round its loop. -/
theorem group_commit_bounded_wait_left_over :
    let l : List CommitInput :=
      [.submit 0, .take 0, .flush 0 none, .take 0, .submit 1, .release 0]
    let s := Run.exec (commitStep 64) {} l
    s.active = false ∧ s.phase 1 = .waiting ∧
      (Run.exec (commitStep 64) s [.check 1, .submit 2, .take 1, .check 0, .flush 1 none]).event 1 = true :=
  ⟨rfl, rfl, (group_commit_bounded_wait 64 (by decide)
    [.submit 0, .take 0, .flush 0 none, .take 0, .submit 1, .release 0] [] 1 (by decide)).2 rfl rfl
      [.submit 2, .take 1, .check 0, .flush 1 none] (by decide)⟩

end Runs

end GpuFaultRecovery
