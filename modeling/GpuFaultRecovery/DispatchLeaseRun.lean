import GpuFaultRecovery.DispatchLease

/-!
# Progress keeps the dispatch lease

A process whose checkpoints follow each other closely enough renews its lease in time, tick after tick, whatever the
others do.
-/

namespace GpuFaultRecovery

/-- A process passes its checkpoints: the clock does not run further than `gap` past the last one it passed, and its
own calls of the store return. The other processes do as they like. -/
def Prompt (skew : Nat → Nat) (process gap : Nat) (s : DispatchWorld) : DispatchInput → Prop
  | .pass elapsed => s.clock + elapsed + skew process ≤ s.checkedAt process + gap
  | .raises other _ => other ≠ process
  | .restart other => other ≠ process
  | _ => True

instance Prompt.decidable (skew : Nat → Nat) (process gap : Nat) (s : DispatchWorld) :
    ∀ i, Decidable (Prompt skew process gap s i)
  | .pass elapsed => inferInstanceAs (Decidable (s.clock + elapsed + skew process ≤ s.checkedAt process + gap))
  | .raises other _ => inferInstanceAs (Decidable (other ≠ process))
  | .restart other => inferInstanceAs (Decidable (other ≠ process))
  | .runOnce _ | .commit _ | .record _ | .renewIfDue _ _ | .finish _ => inferInstanceAs (Decidable True)

/-- What a process that passes its checkpoints can count on. A lease that is known at a checkpoint was granted less
than `renewAfter` before it. -/
structure Keeping (duration : Nat) (skew : Nat → Nat) (process gap epoch : Nat) (s : DispatchWorld) : Prop where
  clock : s.clock + skew process ≤ s.checkedAt process + gap
  checked : s.checkedAt process ≤ s.clock + skew process
  bears : (s.view process).epoch = some epoch
  known : ∃ row expiresAt, s.lease = some row ∧ row.ownerId = process ∧ row.epoch = epoch ∧
    (s.view process).expiresAt = some expiresAt ∧ expiresAt ≤ row.leaseExpiresAt ∧
    s.checkedAt process + duration ≤ expiresAt + renewAfter duration
  ticking : s.phase process = .ticking →
    ∃ attemptedAt, (s.view process).attemptedAt = some attemptedAt ∧
      (s.view process).expiresAt = some (attemptedAt + duration)
  taking :
    ∀ now moment tolerateErrors, s.phase process = .taking now moment tolerateErrors → s.checkedAt process ≤ now
  answered : ∀ now moment lease, s.phase process = .answered now moment lease →
    s.checkedAt process ≤ now ∧ lease.ownerId = process ∧ lease.epoch = epoch ∧
      ∃ row, s.lease = some row ∧ lease.leaseExpiresAt ≤ row.leaseExpiresAt

section Keep

variable {taskKey : String} {duration process gap epoch margin : Nat} {skew : Nat → Nat} {s : DispatchWorld}

private theorem Keeping.outlasts (h : Keeping duration skew process gap epoch s)
    (hskew : ∀ one other, skew other ≤ skew one + margin) (hgap : gap + renewAfter duration + margin < duration)
    {row : PeriodicTaskLease} (hrow : s.lease = some row) (other : Nat) :
    s.clock + skew other < row.leaseExpiresAt := by
  obtain ⟨row', expiresAt, hrow', -, -, -, hle, hchecked⟩ := h.known
  rw [Option.some.inj (hrow.symm.trans hrow')]
  have := h.clock
  have := hskew process other
  omega

private theorem Keeping.kept (h : Keeping duration skew process gap epoch s) (hok : LeaseOk duration skew s)
    (hskew : ∀ one other, skew other ≤ skew one + margin) (hgap : gap + renewAfter duration + margin < duration)
    {other now : Nat} {moment : LossMoment} {tolerateErrors : Bool} (hne : other ≠ process)
    (htaking : s.phase other = .taking now moment tolerateErrors) :
    s.write (acquirePeriodicTaskLease s.lease taskKey other now duration) = s := by
  obtain ⟨row, _, hrow, howner, -⟩ := h.known
  have hnow := ((hok.process other).taking now moment tolerateErrors htaking).1
  have hlasts := h.outlasts hskew hgap hrow other
  have hsame : acquirePeriodicTaskLease s.lease taskKey other now duration = row := by
    rw [hrow]
    exact if_pos ⟨fun he => hne (he.symm.trans howner), by omega⟩
  have hepoch : s.lease.map PeriodicTaskLease.epoch = some row.epoch := by rw [hrow, Option.map_some]
  rw [hsame, DispatchWorld.write, if_pos hepoch, ← hrow]

/-- A step that neither the row nor the process sees. -/
private theorem Keeping.frame (h : Keeping duration skew process gap epoch s) {s' : DispatchWorld}
    (hclock : s'.clock = s.clock) (hlease : s'.lease = s.lease) (hview : s'.view process = s.view process)
    (hphase : s'.phase process = s.phase process) (hchecked : s'.checkedAt process = s.checkedAt process) :
    Keeping duration skew process gap epoch s' := by
  constructor
  · rw [hclock, hchecked]
    exact h.clock
  · rw [hclock, hchecked]
    exact h.checked
  · rw [hview]
    exact h.bears
  · rw [hlease, hview, hchecked]
    exact h.known
  · rw [hview, hphase]
    exact h.ticking
  · rw [hphase, hchecked]
    exact h.taking
  · rw [hphase, hchecked, hlease]
    exact h.answered

private theorem Keeping.leave (h : Keeping duration skew process gap epoch s) :
    Keeping duration skew process gap epoch (s.goTo process .away) := by
  have hphase : (s.goTo process .away).phase process = .away := if_pos rfl
  refine ⟨h.clock, h.checked, h.bears, h.known, fun he => ?_, fun _ _ _ he => ?_, fun _ _ _ he => ?_⟩
  · cases hphase.symm.trans he
  · cases hphase.symm.trans he
  · cases hphase.symm.trans he

/-- The process reads its clock for a take. -/
private theorem Keeping.read (h : Keeping duration skew process gap epoch s) (moment : LossMoment)
    (tolerateErrors : Bool) (attemptedAt : Option Nat) :
    Keeping duration skew process gap epoch
      ((s.setView process { s.view process with attemptedAt := attemptedAt }).goTo
      process (.taking (s.clock + skew process) moment tolerateErrors)) := by
  have hview : ((s.setView process { s.view process with attemptedAt := attemptedAt }).goTo process
      (.taking (s.clock + skew process) moment tolerateErrors)).view process =
        { s.view process with attemptedAt := attemptedAt } := if_pos rfl
  have hphase : ((s.setView process { s.view process with attemptedAt := attemptedAt }).goTo process
      (.taking (s.clock + skew process) moment tolerateErrors)).phase process =
        .taking (s.clock + skew process) moment tolerateErrors := if_pos rfl
  refine ⟨h.clock, h.checked, ?_, ?_, fun he => ?_, fun now _ _ he => ?_, fun _ _ _ he => ?_⟩
  · rw [hview]
    exact h.bears
  · rw [hview]
    exact h.known
  · cases hphase.symm.trans he
  · obtain ⟨rfl, -, -⟩ := DispatchPhase.taking.inj (hphase.symm.trans he)
    exact h.checked
  · cases hphase.symm.trans he

/-- A checkpoint that is not due yet. -/
private theorem Keeping.check (h : Keeping duration skew process gap epoch s) (hticking : s.phase process = .ticking)
    {attemptedAt : Nat} (hattempted : (s.view process).attemptedAt = some attemptedAt)
    (hearly : s.clock + skew process < attemptedAt + renewAfter duration) :
    Keeping duration skew process gap epoch (s.setChecked process (s.clock + skew process)) := by
  have hchecked : (s.setChecked process (s.clock + skew process)).checkedAt process = s.clock + skew process :=
    if_pos rfl
  obtain ⟨attemptedAt', hattempted', hexpires⟩ := h.ticking hticking
  obtain rfl := Option.some.inj (hattempted.symm.trans hattempted')
  obtain ⟨row, expiresAt, hrow, howner, hepoch, hknown, hle, -⟩ := h.known
  obtain rfl := Option.some.inj (hexpires.symm.trans hknown)
  refine ⟨?_, ?_, h.bears, ⟨row, _, hrow, howner, hepoch, hknown, hle, ?_⟩, h.ticking, fun _ _ _ he => ?_,
    fun _ _ _ he => ?_⟩
  · rw [hchecked]
    exact Nat.le_add_right _ _
  · exact hchecked.le
  · rw [hchecked]
    omega
  · cases hticking.symm.trans he
  · cases hticking.symm.trans he

/-- The process renews its lease. -/
private theorem Keeping.commit (h : Keeping duration skew process gap epoch s) (hok : LeaseOk duration skew s)
    (hskew : ∀ one other, skew other ≤ skew one + margin) (hgap : gap + renewAfter duration + margin < duration)
    {now : Nat} {moment : LossMoment} {tolerateErrors : Bool} {lease : PeriodicTaskLease}
    (htaking : s.phase process = .taking now moment tolerateErrors)
    (hlease : acquirePeriodicTaskLease s.lease taskKey process now duration = lease) :
    Keeping duration skew process gap epoch ((s.write lease).goTo process (.answered now moment lease)) := by
  obtain ⟨row, expiresAt, hrow, howner, hepoch, hknown, hle, hchecked⟩ := h.known
  obtain ⟨hnow, hbefore⟩ := (hok.process process).taking now moment tolerateErrors htaking
  have hlasts : now < row.leaseExpiresAt := lt_of_le_of_lt hnow (h.outlasts hskew hgap hrow process)
  have hexpires := hbefore expiresAt hknown
  have hgranted : lease.ownerId = process ∧ lease.leaseExpiresAt = now + duration ∧ lease.epoch = epoch := by
    rcases acquirePeriodicTaskLease_cases row taskKey process now duration with
      ⟨-, hother, -⟩ | ⟨hown, hfrom, ⟨-, -, hsame⟩ | ⟨hlapsed, -⟩⟩
    · exact absurd howner hother
    · rw [← hrow, hlease] at hown hfrom hsame
      exact ⟨hown, hfrom, hsame.trans hepoch⟩
    · omega
  have hphase : ((s.write lease).goTo process (.answered now moment lease)).phase process =
      .answered now moment lease := if_pos rfl
  refine ⟨h.clock, h.checked, h.bears, ⟨lease, expiresAt, rfl, hgranted.1, hgranted.2.2, hknown, ?_, hchecked⟩,
    fun he => ?_, fun _ _ _ he => ?_, fun now' moment' lease' he => ?_⟩
  · rw [hgranted.2.1]
    exact hexpires
  · cases hphase.symm.trans he
  · cases hphase.symm.trans he
  · obtain ⟨rfl, -, rfl⟩ := DispatchPhase.answered.inj (hphase.symm.trans he)
    exact ⟨h.taking now moment tolerateErrors htaking, hgranted.1, hgranted.2.2, lease, rfl, le_refl _⟩

/-- The process records a lease that the row still grants. -/
private theorem keeping_record (hok : LeaseOk duration skew s) {now : Nat} {moment : LossMoment}
    {lease row : PeriodicTaskLease} (hanswered : s.phase process = .answered now moment lease)
    (hown : lease.ownerId = process) (hrow : s.lease = some row) (howner : row.ownerId = process)
    (hepoch : row.epoch = lease.epoch) (hle : lease.leaseExpiresAt ≤ row.leaseExpiresAt)
    (hclock : s.clock + skew process ≤ now + gap) :
    Keeping duration skew process gap lease.epoch (leaseStep taskKey duration skew s (.record process)) := by
  obtain ⟨hnow, hexpires, -, -⟩ := (hok.process process).answered now moment lease hanswered hown
  simp only [leaseStep, hanswered, if_pos hown]
  generalize hworld : ((s.setView process ((s.view process).recordTake process now moment lease)).setChecked process
    now).goTo process .ticking = w
  have hview : w.view process = (s.view process).recordTake process now moment lease := by
    rw [← hworld]
    exact if_pos rfl
  have hchecked : w.checkedAt process = now := by
    rw [← hworld]
    exact if_pos rfl
  have hphase : w.phase process = .ticking := by
    rw [← hworld]
    exact if_pos rfl
  have hclock' : w.clock = s.clock := by rw [← hworld]; rfl
  have hrow' : w.lease = some row := by rw [← hworld, ← hrow]; rfl
  obtain ⟨hviewEpoch, hviewAttempted, hviewExpires⟩ := recordTake_own (s.view process) now moment hown
  rw [← hview] at hviewEpoch hviewAttempted hviewExpires
  refine ⟨?_, ?_, hviewEpoch, ⟨row, lease.leaseExpiresAt, hrow', howner, hepoch, hviewExpires, hle, ?_⟩, fun _ => ?_,
    fun _ _ _ he => ?_, fun _ _ _ he => ?_⟩
  · rw [hchecked, hclock']
    exact hclock
  · rw [hchecked, hclock']
    exact hnow
  · rw [hchecked, hexpires]
    exact Nat.le_add_right _ _
  · exact ⟨now, hviewAttempted, by rw [hviewExpires, hexpires]⟩
  · cases hphase.symm.trans he
  · cases hphase.symm.trans he

private theorem Keeping.renewIfDue (h : Keeping duration skew process gap epoch s)
    (hticking : s.phase process = .ticking) (tolerateErrors : Bool) :
    Keeping duration skew process gap epoch (renewIfDue duration skew s process tolerateErrors) := by
  simp only [GpuFaultRecovery.renewIfDue]
  split
  · exact h
  · split
    · rename_i attemptedAt expiresAt hattempted hexpires
      split
      · rename_i hearly
        split
        · exact h.check hticking hattempted hearly
        · exact h.leave
      · exact h.read .midTick tolerateErrors _
    · exact h.leave

private theorem Keeping.renewIfDue_other (h : Keeping duration skew process gap epoch s) {other : Nat}
    (hne : other ≠ process) (tolerateErrors : Bool) :
    Keeping duration skew process gap epoch (GpuFaultRecovery.renewIfDue duration skew s other tolerateErrors) := by
  simp only [GpuFaultRecovery.renewIfDue]
  split
  · exact h
  · split
    · split
      · split
        · exact h.frame rfl rfl rfl rfl (if_neg hne.symm)
        · exact h.frame rfl rfl rfl (if_neg hne.symm) rfl
      · exact h.frame rfl rfl (if_neg hne.symm) (if_neg hne.symm) rfl
    · exact h.frame rfl rfl rfl (if_neg hne.symm) rfl

private theorem Keeping.step (h : Keeping duration skew process gap epoch s) (hok : LeaseOk duration skew s)
    (hskew : ∀ one other, skew other ≤ skew one + margin) (hgap : gap + renewAfter duration + margin < duration)
    (i : DispatchInput) (hprompt : Prompt skew process gap s i) :
    Keeping duration skew process gap epoch (leaseStep taskKey duration skew s i) := by
  have hpositive : duration ≠ 0 := by omega
  have hgoTo : ∀ {other phase}, other ≠ process → Keeping duration skew process gap epoch (s.goTo other phase) :=
    fun hne => h.frame rfl rfl rfl (if_neg hne.symm) rfl
  cases i with
  | pass elapsed =>
    refine ⟨hprompt, ?_, h.bears, h.known, h.ticking, h.taking, h.answered⟩
    have := h.checked
    change s.checkedAt process ≤ s.clock + elapsed + skew process
    omega
  | runOnce other =>
    simp only [leaseStep, if_neg hpositive]
    split
    · by_cases hne : other = process
      · subst hne
        have hread := h.read .tickStart false (s.view other).attemptedAt
        exact DispatchWorld.setView_self s other ▸ hread
      · exact hgoTo hne
    · exact h
  | commit other =>
    simp only [leaseStep]
    split
    · rename_i now moment tolerateErrors htaking
      -- its own transaction renews the row, another's finds it held
      by_cases hne : other = process
      · subst hne
        exact h.commit hok hskew hgap htaking rfl
      · rw [h.kept hok hskew hgap hne htaking]
        exact hgoTo hne
    · exact h
  | raises other applied =>
    have hne : other ≠ process := hprompt
    simp only [leaseStep]
    split
    · rename_i now moment tolerateErrors htaking
      cases applied with
      | true =>
        simp only [if_pos]
        rw [h.kept hok hskew hgap hne htaking]
        exact hgoTo hne
      | false => exact hgoTo hne
    · exact h
  | record other =>
    by_cases hne : other = process
    · subst hne
      cases hphase : s.phase other with
      | answered now moment lease =>
        obtain ⟨hchecked, hown, hsame, row, hrow, hle⟩ := h.answered now moment lease hphase
        obtain ⟨row', -, hrow', howner, hepoch, -⟩ := h.known
        rw [← Option.some.inj (hrow.symm.trans hrow')] at howner hepoch
        have hclock := h.clock
        rw [← hsame]
        exact keeping_record hok hphase hown hrow howner (hepoch.trans hsame.symm) hle (by omega)
      | away =>
        simp only [leaseStep, hphase]
        exact h
      | taking now moment tolerateErrors =>
        simp only [leaseStep, hphase]
        exact h
      | ticking =>
        simp only [leaseStep, hphase]
        exact h
    · simp only [leaseStep]
      split
      · exact h.frame rfl rfl (if_neg (Ne.symm hne)) (if_neg (Ne.symm hne)) (if_neg (Ne.symm hne))
      · exact h
  | renewIfDue other tolerateErrors =>
    simp only [leaseStep]
    split
    · rename_i hticking
      by_cases hne : other = process
      · subst hne
        exact h.renewIfDue hticking tolerateErrors
      · exact h.renewIfDue_other hne tolerateErrors
    · exact h
  | finish other =>
    simp only [leaseStep]
    split
    · by_cases hne : other = process
      · subst hne
        exact h.leave
      · exact hgoTo hne
    · exact h
  | restart other =>
    have hne : other ≠ process := hprompt
    exact h.frame rfl rfl (if_neg hne.symm) (if_neg hne.symm) rfl

end Keep

/-- A process that was granted the lease, and whose checkpoints then follow each other closely enough, keeps the lease
for as long as it likes: under the same epoch, with a margin to spare, whatever the other processes do. -/
theorem dispatch_progress_keeps_lease (taskKey : String) (duration : Nat) (skew : Nat → Nat) (margin gap : Nat)
    (hskew : ∀ one other, skew other ≤ skew one + margin) (hgap : gap + renewAfter duration + margin < duration)
    (before : List DispatchInput) (process now : Nat) (moment : LossMoment) (lease : PeriodicTaskLease)
    (hanswered : (Run.exec (leaseStep taskKey duration skew) {} before).phase process = .answered now moment lease)
    (hown : lease.ownerId = process)
    (hrow : (Run.exec (leaseStep taskKey duration skew) {} before).lease = some lease)
    (hclock : (Run.exec (leaseStep taskKey duration skew) {} before).clock + skew process ≤ now + gap)
    (l : List DispatchInput)
    (hprompt : Run.Along (leaseStep taskKey duration skew) (Prompt skew process gap)
      (Run.exec (leaseStep taskKey duration skew) {} (before ++ [.record process])) l) :
    let s := Run.exec (leaseStep taskKey duration skew) {} (before ++ .record process :: l)
    s.Holds skew margin process ∧ (s.view process).epoch = some lease.epoch ∧
      ∃ row, s.lease = some row ∧ row.ownerId = process ∧ row.epoch = lease.epoch := by
  intro s
  have hbefore := LeaseOk.exec taskKey duration skew before
  rw [Run.exec_append] at hprompt
  -- both invariants are carried, for the transactions of the others are judged by the readings of their clocks
  have hboth : LeaseOk duration skew s ∧ Keeping duration skew process gap lease.epoch s := by
    have hs : s = Run.exec (leaseStep taskKey duration skew) (leaseStep taskKey duration skew
        (Run.exec (leaseStep taskKey duration skew) {} before) (.record process)) l := by
      rw [← Run.exec_cons, ← Run.exec_append]
    rw [hs]
    refine Run.invariant_exec (I := fun s => LeaseOk duration skew s ∧
      Keeping duration skew process gap lease.epoch s)
      (fun s i hs hi => ⟨hs.1.step i, hs.2.step hs.1 hskew hgap i hi⟩) ⟨hbefore.step _, ?_⟩ hprompt
    exact keeping_record hbefore hanswered hown hrow hown rfl (le_refl _) hclock
  obtain ⟨-, hkeeping⟩ := hboth
  obtain ⟨row, expiresAt, hlease, howner, hepoch, hexpires, -, hchecked⟩ := hkeeping.known
  refine ⟨⟨expiresAt, hexpires, ?_⟩, hkeeping.bears, row, hlease, howner, hepoch⟩
  have := hkeeping.clock
  omega

/-- A tick of several leases' length, at which another process knocks in vain. -/
theorem dispatch_progress_keeps_lease_long_tick :
    let s := Run.exec (leaseStep "workflow-dispatch" 30 fun _ => 0) {}
      [.runOnce 0, .commit 0, .record 0, .pass 12, .renewIfDue 0 false, .commit 0, .record 0, .pass 15, .runOnce 1,
        .commit 1, .record 1, .renewIfDue 0 true, .commit 0, .record 0, .pass 14]
    s.clock = 41 ∧ s.Holds (fun _ => 0) 0 0 := by
  refine ⟨by decide, ?_⟩
  exact (dispatch_progress_keeps_lease "workflow-dispatch" 30 (fun _ => 0) 0 15 (fun _ _ => le_refl _) (by decide)
    [.runOnce 0, .commit 0] 0 0 .tickStart ⟨"workflow-dispatch", 0, 1, 30, 0⟩ (by decide) rfl (by decide) (by decide)
    [.pass 12, .renewIfDue 0 false, .commit 0, .record 0, .pass 15, .runOnce 1, .commit 1, .record 1,
      .renewIfDue 0 true, .commit 0, .record 0, .pass 14] (by decide)).1

end GpuFaultRecovery
