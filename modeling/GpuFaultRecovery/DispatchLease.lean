import Mathlib.Data.List.Count
import Mathlib.Order.Lattice
import GpuFaultRecovery.RemoteCommand
import GpuFaultRecovery.Run

/-!
# The dispatch lease

Every dispatcher process ticks, but only the holder of one lease row works. A take reads the process's clock, asks the
store in one transaction, and records the answer: three steps, between which the others and the clock go on. Times are
microseconds; the clock of a process runs ahead of a common one by its `skew`.

`owners` records to whom the epochs of the row were granted, the latest first, and `checkedAt` when the last
checkpoint of a process was passed; no step reads them.
-/

namespace GpuFaultRecovery

/-! ### The lease row -/

structure PeriodicTaskLease where
  taskKey : String
  ownerId : Nat
  epoch : Nat
  leaseExpiresAt : Nat
  updatedAt : Nat
deriving DecidableEq, Repr

/-- The row after the transaction, which is also what the caller gets. -/
def acquirePeriodicTaskLease (current : Option PeriodicTaskLease) (taskKey : String)
    (ownerId now leaseDuration : Nat) :
    PeriodicTaskLease :=
  match current with
  | none => ⟨taskKey, ownerId, 1, now + leaseDuration, now⟩
  | some lease =>
    if lease.ownerId ≠ ownerId ∧ now < lease.leaseExpiresAt then lease
    else
      { taskKey := taskKey
        ownerId := ownerId
        epoch := if lease.ownerId = ownerId ∧ now < lease.leaseExpiresAt then lease.epoch else lease.epoch + 1
        leaseExpiresAt := now + leaseDuration
        updatedAt := now }

/-- What a transaction makes of a row: another's lease that lasts is kept, the caller's is renewed, and a lapsed one
is taken under the next epoch. -/
theorem acquirePeriodicTaskLease_cases (current : PeriodicTaskLease) (taskKey : String)
    (ownerId now leaseDuration : Nat) :
    let lease := acquirePeriodicTaskLease (some current) taskKey ownerId now leaseDuration
    (lease = current ∧ current.ownerId ≠ ownerId ∧ now < current.leaseExpiresAt) ∨
      (lease.ownerId = ownerId ∧ lease.leaseExpiresAt = now + leaseDuration ∧
        ((current.ownerId = ownerId ∧ now < current.leaseExpiresAt ∧ lease.epoch = current.epoch) ∨
          (current.leaseExpiresAt ≤ now ∧ lease.epoch = current.epoch + 1))) := by
  intro lease
  by_cases hother : current.ownerId ≠ ownerId ∧ now < current.leaseExpiresAt
  · have hlease : lease = current := if_pos hother
    exact .inl ⟨hlease, hother⟩
  · refine .inr ?_
    simp only [lease, acquirePeriodicTaskLease, if_neg hother]
    refine ⟨trivial, trivial, ?_⟩
    by_cases hown : current.ownerId = ownerId ∧ now < current.leaseExpiresAt
    · exact .inl ⟨hown.1, hown.2, if_pos hown⟩
    · refine .inr ⟨?_, if_neg hown⟩
      by_contra hlasts
      by_cases howner : current.ownerId = ownerId
      · exact hown ⟨howner, by omega⟩
      · exact hother ⟨howner, by omega⟩

/-! ### A process's view of it -/

/-- `LOSS_MOMENTS`. -/
inductive LossMoment
  | midTick
  | tickStart
deriving DecidableEq, Repr

/-- What a process knows of its lease. -/
structure DispatchLease where
  acquisitionsTotal : Nat := 0
  midTickLosses : Nat := 0
  tickStartLosses : Nat := 0
  epoch : Option Nat := none
  attemptedAt : Option Nat := none
  expiresAt : Option Nat := none
deriving DecidableEq, Repr

def DispatchLease.countLoss (view : DispatchLease) : LossMoment → DispatchLease
  | .midTick => { view with midTickLosses := view.midTickLosses + 1 }
  | .tickStart => { view with tickStartLosses := view.tickStartLosses + 1 }

/-- Whether the epochs the process missed mean that another process held the lease in between. -/
def DispatchLease.missed (view : DispatchLease) (epoch : Nat) : Bool :=
  match view.epoch with
  | some held => held + 1 < epoch
  | none => false

/-- What `_take` makes of the store's answer. It returns whether the lease is the process's own. -/
def DispatchLease.recordTake (view : DispatchLease) (ownerId now : Nat) (moment : LossMoment)
    (lease : PeriodicTaskLease) : DispatchLease :=
  if lease.ownerId = ownerId then
    let counted :=
      if view.epoch = some lease.epoch then view
      else
        let acquired := { view with acquisitionsTotal := view.acquisitionsTotal + 1 }
        if view.missed lease.epoch then acquired.countLoss moment else acquired
    { counted with epoch := some lease.epoch, attemptedAt := some now, expiresAt := some lease.leaseExpiresAt }
  else
    let counted := if view.epoch.isSome then view.countLoss moment else view
    { counted with epoch := none, attemptedAt := none, expiresAt := none }

/-- `_renew_after`: a third of the lease, the third as the double that stands for it. -/
def renewAfter (duration : Nat) : Nat := (roundHalfEven (duration * 6004799503160661) 18014398509481984).toNat

/-! ### The processes -/

/-- Where a process stands. -/
inductive DispatchPhase
  | away
  /-- In `_take`, before the transaction, with the clock read. -/
  | taking (now : Nat) (moment : LossMoment) (tolerateErrors : Bool)
  | answered (now : Nat) (moment : LossMoment) (lease : PeriodicTaskLease)
  /-- In `holding_tick`, between two checkpoints. -/
  | ticking
deriving DecidableEq, Repr

structure DispatchWorld where
  clock : Nat := 0
  lease : Option PeriodicTaskLease := none
  view : Nat → DispatchLease := fun _ => {}
  phase : Nat → DispatchPhase := fun _ => .away
  owners : List Nat := []
  checkedAt : Nat → Nat := fun _ => 0

inductive DispatchInput
  | pass (elapsed : Nat)
  | runOnce (process : Nat)
  | commit (process : Nat)
  /-- The store raises; its transaction may have been applied. -/
  | raises (process : Nat) (applied : Bool)
  | record (process : Nat)
  | renewIfDue (process : Nat) (tolerateErrors : Bool)
  | finish (process : Nat)
  | restart (process : Nat)
deriving DecidableEq, Repr

namespace DispatchWorld

def goTo (s : DispatchWorld) (process : Nat) (phase : DispatchPhase) : DispatchWorld :=
  { s with phase := fun other => if other = process then phase else s.phase other }

def setView (s : DispatchWorld) (process : Nat) (view : DispatchLease) : DispatchWorld :=
  { s with view := fun other => if other = process then view else s.view other }

def setChecked (s : DispatchWorld) (process now : Nat) : DispatchWorld :=
  { s with checkedAt := fun other => if other = process then now else s.checkedAt other }

/-- The row is written. An epoch that the row did not have is a grant. -/
def write (s : DispatchWorld) (lease : PeriodicTaskLease) : DispatchWorld :=
  { s with
    lease := some lease
    owners := if s.lease.map PeriodicTaskLease.epoch = some lease.epoch then s.owners else lease.ownerId :: s.owners }

/-- `held`, with a margin: the lease that the process knows of lasts, by its clock, for longer than the margin. -/
def Holds (s : DispatchWorld) (skew : Nat → Nat) (margin process : Nat) : Prop :=
  ∃ expiresAt, (s.view process).expiresAt = some expiresAt ∧ s.clock + skew process + margin < expiresAt

end DispatchWorld

section Step

variable (taskKey : String) (duration : Nat) (skew : Nat → Nat)

/-- `renew_if_due` as far as the store. -/
def renewIfDue (s : DispatchWorld) (process : Nat) (tolerateErrors : Bool) : DispatchWorld :=
  let now := s.clock + skew process
  let view := s.view process
  if duration = 0 then s
  else
    match view.attemptedAt, view.expiresAt with
    | some attemptedAt, some expiresAt =>
      if now < attemptedAt + renewAfter duration then
        if now < expiresAt then s.setChecked process now else s.goTo process .away
      else
        (s.setView process { view with attemptedAt := some now }).goTo process (.taking now .midTick tolerateErrors)
    | _, _ => s.goTo process .away

/-- Whether a tick goes on when the store raised: only where errors are tolerated, and while the lease lasts. -/
def toleratedRaise (view : DispatchLease) (now : Nat) (tolerateErrors : Bool) : Bool :=
  match view.expiresAt with
  | some expiresAt => tolerateErrors && now < expiresAt
  | none => false

/-- One step of a process, or of the clock. A lease of no duration is off: every process ticks. -/
def leaseStep (s : DispatchWorld) : DispatchInput → DispatchWorld
  | .pass elapsed => { s with clock := s.clock + elapsed }
  | .runOnce process =>
    if s.phase process = .away then
      if duration = 0 then s.goTo process .ticking
      else s.goTo process (.taking (s.clock + skew process) .tickStart false)
    else s
  | .commit process =>
    match s.phase process with
    | .taking now moment _ =>
      let lease := acquirePeriodicTaskLease s.lease taskKey process now duration
      (s.write lease).goTo process (.answered now moment lease)
    | _ => s
  | .raises process applied =>
    match s.phase process with
    | .taking now _ tolerateErrors =>
      let written := if applied then s.write (acquirePeriodicTaskLease s.lease taskKey process now duration) else s
      written.goTo process (if toleratedRaise (s.view process) now tolerateErrors then .ticking else .away)
    | _ => s
  | .record process =>
    match s.phase process with
    | .answered now moment lease =>
      -- a tick that finds another owner ends, whether at its start or at a checkpoint
      ((s.setView process ((s.view process).recordTake process now moment lease)).setChecked process now).goTo process
        (if lease.ownerId = process then .ticking else .away)
    | _ => s
  | .renewIfDue process tolerateErrors =>
    if s.phase process = .ticking then renewIfDue duration skew s process tolerateErrors else s
  | .finish process => if s.phase process = .ticking then s.goTo process .away else s
  | .restart process => (s.setView process {}).goTo process .away

end Step

/-! ### The epochs -/

def epochOwner : List Nat → Nat → Option Nat
  | [], _ => none
  | process :: older, epoch => if epoch = older.length + 1 then some process else epochOwner older epoch

private theorem epochOwner_range {owners : List Nat} {epoch process : Nat}
    (h : epochOwner owners epoch = some process) :
    1 ≤ epoch ∧ epoch ≤ owners.length := by
  induction owners with
  | nil => cases h
  | cons latest older ih =>
    rw [List.length_cons]
    rw [epochOwner] at h
    split at h
    · omega
    · have := ih h
      omega

private theorem epochOwner_length {owners : List Nat} {process : Nat} (h : owners.head? = some process) :
    epochOwner owners owners.length = some process := by
  cases owners with
  | nil => cases h
  | cons latest older =>
    rw [List.head?_cons] at h
    rw [epochOwner, List.length_cons, if_pos rfl, h]

private theorem epochOwner_cons {owners : List Nat} {epoch process : Nat} (h : epochOwner owners epoch = some process)
    (latest : Nat) : epochOwner (latest :: owners) epoch = some process := by
  have := epochOwner_range h
  rw [epochOwner, if_neg (by omega), h]

/-- The row bears the latest epoch, and its owner is to whom that was granted. -/
structure LeaseRowOk (s : DispatchWorld) : Prop where
  fresh : s.lease = none → s.owners = []
  epoch : ∀ lease, s.lease = some lease → lease.epoch = s.owners.length
  owner : ∀ lease, s.lease = some lease → s.owners.head? = some lease.ownerId

section Write

variable {taskKey : String} {duration process now : Nat} {s : DispatchWorld} {lease : PeriodicTaskLease}

/-- What the transaction of a process does to the row. -/
inductive Written (s : DispatchWorld) (duration process now : Nat) (lease : PeriodicTaskLease) : Prop
  | kept (hrow : s.lease = some lease) (hother : lease.ownerId ≠ process) (hlasts : now < lease.leaseExpiresAt)
    (howners : (s.write lease).owners = s.owners)
  | renewed (current : PeriodicTaskLease) (hrow : s.lease = some current) (hown : current.ownerId = process)
    (hlasts : now < current.leaseExpiresAt) (howner : lease.ownerId = process)
    (hexpires : lease.leaseExpiresAt = now + duration) (howners : (s.write lease).owners = s.owners)
  | taken (hlapsed : ∀ current, s.lease = some current → current.leaseExpiresAt ≤ now)
      (howner : lease.ownerId = process)
    (hexpires : lease.leaseExpiresAt = now + duration) (howners : (s.write lease).owners = process :: s.owners)

private theorem written_acquire (hlease : acquirePeriodicTaskLease s.lease taskKey process now duration = lease) :
    Written s duration process now lease := by
  cases hrow : s.lease with
  | none =>
    rw [hrow] at hlease
    subst hlease
    exact .taken (fun _ he => by cases hrow.symm.trans he) rfl rfl (by simp [DispatchWorld.write, hrow,
      acquirePeriodicTaskLease])
  | some current =>
    rw [hrow] at hlease
    rcases acquirePeriodicTaskLease_cases current taskKey process now duration with
      ⟨heq, hother, hlasts⟩ | ⟨howner, hexpires, hcase⟩
    · rw [hlease] at heq
      subst heq
      exact .kept hrow hother hlasts (by simp [DispatchWorld.write, hrow])
    · rw [hlease] at howner hexpires hcase
      rcases hcase with ⟨hown, hlasts, hepoch⟩ | ⟨hlapsed, hepoch⟩
      · exact .renewed current hrow hown hlasts howner hexpires (by simp [DispatchWorld.write, hrow, hepoch])
      · refine .taken (fun other he => ?_) howner hexpires ?_
        · rw [← Option.some.inj (hrow.symm.trans he)]
          exact hlapsed
        · have hne : current.epoch ≠ lease.epoch := by omega
          simp [DispatchWorld.write, hrow, hne, howner]

private theorem LeaseRowOk.write (h : LeaseRowOk s)
    (hlease : acquirePeriodicTaskLease s.lease taskKey process now duration = lease) :
    LeaseRowOk (s.write lease) := by
  have hrow : (s.write lease).lease = some lease := rfl
  suffices hboth : lease.epoch = (s.write lease).owners.length ∧ (s.write lease).owners.head? = some lease.ownerId by
    refine ⟨fun he => (by cases hrow.symm.trans he), fun other he => ?_, fun other he => ?_⟩
    · rw [← Option.some.inj (hrow.symm.trans he)]
      exact hboth.1
    · rw [← Option.some.inj (hrow.symm.trans he)]
      exact hboth.2
  cases hold : s.lease with
  | none =>
    rw [hold] at hlease
    subst hlease
    simp [DispatchWorld.write, hold, acquirePeriodicTaskLease, h.fresh hold]
  | some current =>
    have hepoch := h.epoch current hold
    have howner := h.owner current hold
    rw [hold] at hlease
    rcases acquirePeriodicTaskLease_cases current taskKey process now duration with
      ⟨heq, -, -⟩ | ⟨hnew, -, ⟨hown, -, hsame⟩ | ⟨-, hnext⟩⟩
    · rw [hlease] at heq
      subst heq
      simp [DispatchWorld.write, hold, hepoch, howner]
    · rw [hlease] at hnew hsame
      simp [DispatchWorld.write, hold, hsame, hepoch, howner, hnew, hown]
    · rw [hlease] at hnew hnext
      simp [DispatchWorld.write, hold, hnext, hepoch]

end Write

/-! ### At most one holder -/

section Holder

variable (duration : Nat) (skew : Nat → Nat)

/-- What a process may believe of its lease: the row grants it, or some clock has reached its end. -/
def Backed (s : DispatchWorld) (process expiresAt : Nat) : Prop :=
  (∃ lease, s.lease = some lease ∧ lease.ownerId = process ∧ expiresAt ≤ lease.leaseExpiresAt) ∨
    ∃ other, expiresAt ≤ s.clock + skew other

structure ProcessOk (s : DispatchWorld) (process : Nat) (view : DispatchLease) (phase : DispatchPhase) : Prop where
  backed : ∀ expiresAt, view.expiresAt = some expiresAt →
    Backed skew s process expiresAt ∧ expiresAt ≤ s.clock + skew process + duration
  epoch : ∀ epoch, view.epoch = some epoch → epochOwner s.owners epoch = some process
  taking : ∀ now moment tolerateErrors, phase = .taking now moment tolerateErrors →
    now ≤ s.clock + skew process ∧ ∀ expiresAt, view.expiresAt = some expiresAt → expiresAt ≤ now + duration
  answered : ∀ now moment lease, phase = .answered now moment lease → lease.ownerId = process →
    now ≤ s.clock + skew process ∧ lease.leaseExpiresAt = now + duration ∧
      Backed skew s process lease.leaseExpiresAt ∧ epochOwner s.owners lease.epoch = some process

structure LeaseOk (s : DispatchWorld) : Prop where
  row : LeaseRowOk s
  process : ∀ process, ProcessOk duration skew s process (s.view process) (s.phase process)

end Holder

section HolderSteps

variable {taskKey : String} {duration process now : Nat} {skew : Nat → Nat} {s : DispatchWorld}
  {view : DispatchLease} {phase : DispatchPhase} {lease : PeriodicTaskLease}

private theorem LeaseRowOk.empty : LeaseRowOk {} := ⟨fun _ => rfl, fun _ h => (by cases h), fun _ h => (by cases h)⟩

private theorem LeaseOk.empty : LeaseOk duration skew {} where
  row := LeaseRowOk.empty
  process _ := ⟨fun _ h => (by cases h), fun _ h => (by cases h), fun _ _ _ h => (by cases h),
    fun _ _ _ h => (by cases h)⟩

private theorem Backed.pass {expiresAt : Nat} (h : Backed skew s process expiresAt) (elapsed : Nat) :
    Backed skew { s with clock := s.clock + elapsed } process expiresAt := by
  rcases h with hrow | ⟨other, hle⟩
  · exact .inl hrow
  · refine .inr ⟨other, ?_⟩
    change expiresAt ≤ s.clock + elapsed + skew other
    omega

private theorem Backed.write {taker expiresAt : Nat} (h : Backed skew s process expiresAt)
    (hwritten : Written s duration taker now lease) (hnow : now ≤ s.clock + skew taker)
    (hown : process = taker → expiresAt ≤ now + duration) : Backed skew (s.write lease) process expiresAt := by
  rcases h with ⟨current, hrow, howner, hle⟩ | hlapsed
  · cases hwritten with
    | kept hrow' =>
      rw [Option.some.inj (hrow.symm.trans hrow')] at howner hle
      exact .inl ⟨lease, rfl, howner, hle⟩
    | renewed current' hrow' hown' _ howner' hexpires =>
      have hself : process = taker := by
        rw [← howner, ← hown', Option.some.inj (hrow.symm.trans hrow')]
      exact .inl ⟨lease, rfl, by rw [howner', hself], by rw [hexpires]; exact hown hself⟩
    | taken hlapsed _ _ =>
      -- the taker's clock has reached the end of the lease it takes over
      have := hlapsed current hrow
      exact .inr ⟨taker, le_trans hle (le_trans this hnow)⟩
  · exact .inr hlapsed

private theorem epochOwner_write {taker epoch : Nat} (h : epochOwner s.owners epoch = some process)
    (hwritten : Written s duration taker now lease) : epochOwner (s.write lease).owners epoch = some process := by
  cases hwritten with
  | kept _ _ _ howners => rwa [howners]
  | renewed _ _ _ _ _ _ howners => rwa [howners]
  | taken _ _ _ howners =>
    rw [howners]
    exact epochOwner_cons h taker

private theorem LeaseOk.move (h : LeaseOk duration skew s) (hprocess : ProcessOk duration skew s process view phase) :
    LeaseOk duration skew ((s.setView process view).goTo process phase) where
  row := ⟨h.row.fresh, h.row.epoch, h.row.owner⟩
  process other := by
    by_cases he : other = process
    · subst he
      simp only [DispatchWorld.goTo, DispatchWorld.setView, if_pos]
      exact ⟨hprocess.backed, hprocess.epoch, hprocess.taking, hprocess.answered⟩
    · simp only [DispatchWorld.goTo, DispatchWorld.setView, if_neg he]
      exact ⟨(h.process other).backed, (h.process other).epoch, (h.process other).taking, (h.process other).answered⟩

theorem DispatchWorld.setView_self (s : DispatchWorld) (process : Nat) : s.setView process (s.view process) = s := by
  have hview : (fun other => if other = process then s.view process else s.view other) = s.view := by
    funext other
    split
    · rename_i he
      rw [he]
    · rfl
  rw [setView, hview]

private theorem LeaseOk.goTo (h : LeaseOk duration skew s)
    (hprocess : ProcessOk duration skew s process (s.view process) phase) :
    LeaseOk duration skew (s.goTo process phase) := by
  have := h.move hprocess
  rwa [DispatchWorld.setView_self] at this

private theorem ProcessOk.idle (h : ProcessOk duration skew s process view phase) {phase' : DispatchPhase}
    (hidle : phase' = .away ∨ phase' = .ticking) : ProcessOk duration skew s process view phase' := by
  refine ⟨h.backed, h.epoch, fun now moment tolerateErrors he => ?_, fun now moment lease he => ?_⟩
  · rcases hidle with rfl | rfl <;> cases he
  · rcases hidle with rfl | rfl <;> cases he

private theorem ProcessOk.read (h : ProcessOk duration skew s process view phase) (moment : LossMoment)
    (tolerateErrors : Bool) :
    ProcessOk duration skew s process view (.taking (s.clock + skew process) moment tolerateErrors) where
  backed := h.backed
  epoch := h.epoch
  taking now' moment' tolerateErrors' he := by
    obtain ⟨rfl, -, -⟩ := DispatchPhase.taking.inj he
    exact ⟨le_refl _, fun expiresAt hexpires => (h.backed expiresAt hexpires).2⟩
  answered _ _ _ he := by cases he

private theorem ProcessOk.pass (h : ProcessOk duration skew s process view phase) (elapsed : Nat) :
    ProcessOk duration skew { s with clock := s.clock + elapsed } process view phase where
  backed expiresAt hexpires := by
    obtain ⟨hbacked, hle⟩ := h.backed expiresAt hexpires
    refine ⟨hbacked.pass elapsed, ?_⟩
    change expiresAt ≤ s.clock + elapsed + skew process + duration
    omega
  epoch := h.epoch
  taking now moment tolerateErrors he := by
    obtain ⟨hle, hexpires⟩ := h.taking now moment tolerateErrors he
    refine ⟨?_, hexpires⟩
    change now ≤ s.clock + elapsed + skew process
    omega
  answered now moment lease he howner := by
    obtain ⟨hle, hexpires, hbacked, hepoch⟩ := h.answered now moment lease he howner
    refine ⟨?_, hexpires, hbacked.pass elapsed, hepoch⟩
    change now ≤ s.clock + elapsed + skew process
    omega

/-- The row is written by a process that has read its clock. -/
private theorem LeaseOk.write (h : LeaseOk duration skew s) {moment : LossMoment} {tolerateErrors : Bool}
    (htaking : s.phase process = .taking now moment tolerateErrors)
    (hlease : acquirePeriodicTaskLease s.lease taskKey process now duration = lease) :
    LeaseOk duration skew (s.write lease) := by
  have hwritten := written_acquire hlease
  obtain ⟨hnow, hview⟩ := (h.process process).taking now moment tolerateErrors htaking
  refine ⟨h.row.write hlease, fun other => ?_⟩
  have hother := h.process other
  refine ⟨fun expiresAt hexpires => ?_, fun epoch hepoch => ?_, hother.taking,
    fun now' moment' lease' he howner => ?_⟩
  · obtain ⟨hbacked, hle⟩ := hother.backed expiresAt hexpires
    refine ⟨hbacked.write hwritten hnow fun he => ?_, hle⟩
    subst he
    exact hview expiresAt hexpires
  · exact epochOwner_write (hother.epoch epoch hepoch) hwritten
  · obtain ⟨hle, hexpires, hbacked, hepoch⟩ := hother.answered now' moment' lease' he howner
    refine ⟨hle, hexpires, hbacked.write hwritten hnow fun heq => ?_, epochOwner_write hepoch hwritten⟩
    subst heq
    cases htaking.symm.trans he

/-- The lease that a process is granted is what the row grants. -/
private theorem LeaseOk.answer (h : LeaseOk duration skew s) {moment : LossMoment} {tolerateErrors : Bool}
    (htaking : s.phase process = .taking now moment tolerateErrors)
    (hlease : acquirePeriodicTaskLease s.lease taskKey process now duration = lease) :
    LeaseOk duration skew ((s.write lease).goTo process (.answered now moment lease)) := by
  have hnow := ((h.process process).taking now moment tolerateErrors htaking).1
  have hwrote := h.write htaking hlease
  refine hwrote.goTo ?_
  have hself := hwrote.process process
  refine ⟨hself.backed, hself.epoch, fun _ _ _ he => (by cases he), fun now' moment' lease' he howner => ?_⟩
  obtain ⟨rfl, rfl, rfl⟩ := DispatchPhase.answered.inj he
  have hexpires : lease.leaseExpiresAt = now + duration := by
    cases written_acquire hlease with
    | kept _ hother => exact absurd howner hother
    | renewed _ _ _ _ _ hexpires => exact hexpires
    | taken _ _ hexpires => exact hexpires
  refine ⟨hnow, hexpires, .inl ⟨lease, rfl, howner, le_refl _⟩, ?_⟩
  rw [hwrote.row.epoch lease rfl]
  apply epochOwner_length
  rw [hwrote.row.owner lease rfl, howner]

theorem recordTake_own (view : DispatchLease) (now : Nat) (moment : LossMoment) (howner : lease.ownerId = process) :
    (view.recordTake process now moment lease).epoch = some lease.epoch ∧
      (view.recordTake process now moment lease).attemptedAt = some now ∧
      (view.recordTake process now moment lease).expiresAt = some lease.leaseExpiresAt := by
  rw [DispatchLease.recordTake, if_pos howner]
  exact ⟨rfl, rfl, rfl⟩

private theorem recordTake_other (view : DispatchLease) (now : Nat) (moment : LossMoment)
    (hother : lease.ownerId ≠ process) :
    (view.recordTake process now moment lease).epoch = none ∧
      (view.recordTake process now moment lease).expiresAt = none := by
  rw [DispatchLease.recordTake, if_neg hother]
  exact ⟨rfl, rfl⟩

/-- A process records the answer it has. -/
private theorem LeaseOk.record (h : LeaseOk duration skew s) {moment : LossMoment}
    (hanswered : s.phase process = .answered now moment lease) (hidle : phase = .away ∨ phase = .ticking) :
    LeaseOk duration skew
      ((s.setView process ((s.view process).recordTake process now moment lease)).goTo process phase) := by
  apply h.move
  by_cases howner : lease.ownerId = process
  · obtain ⟨hnow, hexpires, hbacked, hepoch⟩ := (h.process process).answered now moment lease hanswered howner
    obtain ⟨hviewEpoch, -, hviewExpires⟩ := recordTake_own (s.view process) now moment howner
    have hcore : ProcessOk duration skew s process ((s.view process).recordTake process now moment lease) .away := by
      refine ⟨fun expiresAt he => ?_, fun epoch he => ?_, fun _ _ _ he => (by cases he),
        fun _ _ _ he => (by cases he)⟩
      · rw [hviewExpires] at he
        rw [← Option.some.inj he]
        refine ⟨hbacked, ?_⟩
        rw [hexpires]
        omega
      · rw [hviewEpoch] at he
        rw [← Option.some.inj he]
        exact hepoch
    exact hcore.idle hidle
  · obtain ⟨hviewEpoch, hviewExpires⟩ := recordTake_other (s.view process) now moment howner
    have hcore : ProcessOk duration skew s process ((s.view process).recordTake process now moment lease) .away := by
      refine ⟨fun expiresAt he => ?_, fun epoch he => ?_, fun _ _ _ he => (by cases he),
        fun _ _ _ he => (by cases he)⟩
      · rw [hviewExpires] at he
        cases he
      · rw [hviewEpoch] at he
        cases he
    exact hcore.idle hidle

private theorem LeaseOk.setChecked (h : LeaseOk duration skew s) (process now : Nat) :
    LeaseOk duration skew (s.setChecked process now) where
  row := ⟨h.row.fresh, h.row.epoch, h.row.owner⟩
  process other := ⟨(h.process other).backed, (h.process other).epoch, (h.process other).taking,
    (h.process other).answered⟩

private theorem LeaseOk.renewIfDue (h : LeaseOk duration skew s) (process : Nat) (tolerateErrors : Bool) :
    LeaseOk duration skew (renewIfDue duration skew s process tolerateErrors) := by
  have hprocess := h.process process
  simp only [GpuFaultRecovery.renewIfDue]
  split
  · exact h
  · split
    · split
      · split
        · exact h.setChecked process _
        · exact h.goTo (hprocess.idle (.inl rfl))
      · refine h.move ?_
        have hview : ProcessOk duration skew s process
            { s.view process with attemptedAt := some (s.clock + skew process) } .away :=
          ⟨hprocess.backed, hprocess.epoch, fun _ _ _ he => (by cases he), fun _ _ _ he => (by cases he)⟩
        exact hview.read _ _
    · exact h.goTo (hprocess.idle (.inl rfl))

theorem LeaseOk.step (h : LeaseOk duration skew s) (i : DispatchInput) :
    LeaseOk duration skew (leaseStep taskKey duration skew s i) := by
  cases i with
  | pass elapsed =>
    exact ⟨⟨h.row.fresh, h.row.epoch, h.row.owner⟩, fun process => (h.process process).pass elapsed⟩
  | runOnce process =>
    simp only [leaseStep]
    split
    · split
      · exact h.goTo ((h.process process).idle (.inr rfl))
      · exact h.goTo ((h.process process).read _ _)
    · exact h
  | commit process =>
    simp only [leaseStep]
    split
    · rename_i now moment tolerateErrors htaking
      exact h.answer htaking rfl
    · exact h
  | raises process applied =>
    simp only [leaseStep]
    split
    · rename_i now moment tolerateErrors htaking
      have hphase : ∀ tolerated : Bool, (if tolerated then DispatchPhase.ticking else .away) = .away ∨
          (if tolerated then DispatchPhase.ticking else .away) = .ticking := by
        intro tolerated
        cases tolerated
        · exact .inl rfl
        · exact .inr rfl
      cases applied with
      | true =>
        have hwrote : LeaseOk duration skew
            (s.write (acquirePeriodicTaskLease s.lease taskKey process now duration)) := h.write htaking rfl
        exact hwrote.goTo ((hwrote.process process).idle (hphase _))
      | false => exact h.goTo ((h.process process).idle (hphase _))
    · exact h
  | record process =>
    simp only [leaseStep]
    split
    · rename_i now moment lease hanswered
      have hphase : (if lease.ownerId = process then DispatchPhase.ticking else .away) = .away ∨
          (if lease.ownerId = process then DispatchPhase.ticking else .away) = .ticking := by
        split
        · exact .inr rfl
        · exact .inl rfl
      exact (h.record hanswered hphase).setChecked process now
    · exact h
  | renewIfDue process tolerateErrors =>
    simp only [leaseStep]
    split
    · exact h.renewIfDue process tolerateErrors
    · exact h
  | finish process =>
    simp only [leaseStep]
    split
    · exact h.goTo ((h.process process).idle (.inl rfl))
    · exact h
  | restart process =>
    refine h.move ⟨fun _ he => ?_, fun _ he => ?_, fun _ _ _ he => ?_, fun _ _ _ he => ?_⟩
    · cases he
    · cases he
    · cases he
    · cases he

theorem LeaseOk.exec (taskKey : String) (duration : Nat) (skew : Nat → Nat) (l : List DispatchInput) :
    LeaseOk duration skew (Run.exec (leaseStep taskKey duration skew) {} l) :=
  Run.invariant_exec (P := fun _ _ => True) (fun _ i hs _ => hs.step i) LeaseOk.empty (Run.along_true _ l)

private theorem LeaseOk.row_of_holds (h : LeaseOk duration skew s) {margin : Nat}
    (hskew : ∀ one other, skew other ≤ skew one + margin) (hholds : s.Holds skew margin process) :
    ∃ lease, s.lease = some lease ∧ lease.ownerId = process ∧
      s.clock + skew process + margin < lease.leaseExpiresAt := by
  obtain ⟨expiresAt, hexpires, hlt⟩ := hholds
  rcases ((h.process process).backed expiresAt hexpires).1 with ⟨lease, hrow, howner, hle⟩ | ⟨other, hle⟩
  · exact ⟨lease, hrow, howner, by omega⟩
  · have := hskew process other
    omega

end HolderSteps

/-- However the dispatchers interleave, stall, fail in the store and restart: where no two clocks differ by more than
a margin, at most one process holds the lease with that margin to spare, and the row is then its own; and no two
processes ever bear the same epoch. -/
theorem dispatch_lease_exclusive (taskKey : String) (duration : Nat) (skew : Nat → Nat) (margin : Nat)
    (hskew : ∀ one other, skew other ≤ skew one + margin) (l : List DispatchInput) :
    let s := Run.exec (leaseStep taskKey duration skew) {} l
    (∀ one other, s.Holds skew margin one → s.Holds skew margin other → one = other) ∧
      (∀ one, s.Holds skew margin one → ∃ lease, s.lease = some lease ∧ lease.ownerId = one) ∧
      ∀ one other epoch, (s.view one).epoch = some epoch → (s.view other).epoch = some epoch → one = other := by
  intro s
  have hok : LeaseOk duration skew s := LeaseOk.exec taskKey duration skew l
  refine ⟨fun one other hone hother => ?_, fun one hone => ?_, fun one other epoch hone hother => ?_⟩
  · obtain ⟨lease, hrow, howner, -⟩ := hok.row_of_holds hskew hone
    obtain ⟨lease', hrow', howner', -⟩ := hok.row_of_holds hskew hother
    rw [← howner, ← howner', Option.some.inj (hrow.symm.trans hrow')]
  · obtain ⟨lease, hrow, howner, -⟩ := hok.row_of_holds hskew hone
    exact ⟨lease, hrow, howner⟩
  · have hone' := (hok.process one).epoch epoch hone
    have hother' := (hok.process other).epoch epoch hother
    exact Option.some.inj (hone'.symm.trans hother')

/-- The first process stalls with a lease that has lapsed, and the second takes over. -/
theorem dispatch_lease_exclusive_takeover :
    let s := Run.exec (leaseStep "workflow-dispatch" 30 fun process => process % 2) {}
      [.runOnce 0, .commit 0, .record 0, .pass 30, .runOnce 1, .commit 1, .record 1]
    ∀ one, s.Holds (fun process => process % 2) 1 one → one = 1 := by
  intro s one hone
  refine (dispatch_lease_exclusive "workflow-dispatch" 30 (fun process => process % 2) 1 ?_ _).1 one 1 hone ?_
  · intro one other
    omega
  · exact ⟨61, by decide, by decide⟩

end GpuFaultRecovery
