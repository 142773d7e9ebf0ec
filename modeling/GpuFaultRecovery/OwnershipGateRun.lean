import GpuFaultRecovery.OwnershipGate

/-!
# Final ownership permits over runs of the gate

A physical call follows a delivery check, and a delivery check passes only for a permit that `require` returned: one
that the control plane signed, that allows the call, and that names the challenge which this `require` issued. A
challenge is issued once, so a permit is handed out once; a handed-out permit passes once; and a denial that was
accepted for a challenge stays, whatever arrives after it. What the steps of a run can do to the gate is listed once,
in `GateChange`; the invariant and the fate of a denial are read off that list.
-/

namespace GpuFaultRecovery

/-! ### What a step can do -/

/-- The boundary is the same up to its event and its deadline, and it does not return to its wait. -/
structure PendingBoundary.Kept (before after : PendingBoundary) : Prop where
  command : after.command = before.command
  boundary : after.boundary = before.boundary
  challenge : after.challenge = before.challenge
  permit : after.permit = before.permit
  status : after.status = .waiting → before.status = .waiting

private theorem PendingBoundary.Kept.refl (pending : PendingBoundary) : pending.Kept pending :=
  ⟨rfl, rfl, rfl, rfl, id⟩

private theorem PendingBoundary.Kept.trans {first second third : PendingBoundary} (h : first.Kept second)
    (h' : second.Kept third) : first.Kept third :=
  ⟨h'.command.trans h.command, h'.boundary.trans h.boundary, h'.challenge.trans h.challenge,
    h'.permit.trans h.permit, h.status ∘ h'.status⟩

/-- Every boundary is kept, and none is new. -/
structure BoundariesKept (before after : Table PendingBoundary.sequence) : Prop where
  forward : ∀ n pending, before.get? n = some pending → ∃ next, after.get? n = some next ∧ pending.Kept next
  backward : ∀ n next, after.get? n = some next → ∃ pending, before.get? n = some pending ∧ pending.Kept next

private theorem BoundariesKept.refl (boundaries : Table PendingBoundary.sequence) :
    BoundariesKept boundaries boundaries :=
  ⟨fun _ pending h => ⟨pending, h, .refl pending⟩, fun _ pending h => ⟨pending, h, .refl pending⟩⟩

private theorem BoundariesKept.trans {first second third : Table PendingBoundary.sequence}
    (h : BoundariesKept first second) (h' : BoundariesKept second third) : BoundariesKept first third := by
  constructor
  · intro n pending hfound
    obtain ⟨next, hnext, hkept⟩ := h.forward n pending hfound
    obtain ⟨last, hlast, hkept'⟩ := h'.forward n next hnext
    exact ⟨last, hlast, hkept.trans hkept'⟩
  · intro n last hfound
    obtain ⟨next, hnext, hkept'⟩ := h'.backward n last hfound
    obtain ⟨pending, hpending, hkept⟩ := h.backward n next hnext
    exact ⟨pending, hpending, hkept.trans hkept'⟩

private theorem boundariesKept_put {boundaries : Table PendingBoundary.sequence} {pending next : PendingBoundary}
    (hfound : boundaries.get? next.sequence = some pending) (hkept : pending.Kept next) :
    BoundariesKept boundaries (boundaries.put next) := by
  constructor
  · intro n found hn
    rw [Table.get?_put]
    split
    · rename_i hsame
      subst hsame
      rw [hfound] at hn
      cases hn
      exact ⟨next, rfl, hkept⟩
    · exact ⟨found, hn, .refl found⟩
  · intro n found hn
    rw [Table.get?_put] at hn
    split at hn
    · rename_i hsame
      subst hsame
      cases hn
      exact ⟨pending, hfound, hkept⟩
    · exact ⟨found, hn, .refl found⟩

namespace OwnershipGate

/-- All that one step can do to the gate. -/
inductive GateChange (config : GateConfig) (gate : OwnershipGate) : OwnershipGate → Prop
  | kept {next : OwnershipGate} (hrequires : BoundariesKept gate.requires next.requires)
      (hpending : ∀ c entry, next.pending.get? c = some entry → gate.pending.get? c = some entry)
      (hdeliveries : next.deliveries = gate.deliveries) (hsequence : next.sequence = gate.sequence)
      (hclosed : gate.closed = true → next.closed = true) (hsigned : gate.signed ⊆ next.signed)
      (hpassed : next.passed = gate.passed) : GateChange config gate next
  | stored {pending next : PendingBoundary} {permit : OwnershipPermit}
      (hpending : gate.pendingOf permit.document.challenge.commandId = some pending)
      (hchallenge : pending.challenge = permit.document.challenge)
      (hsigned : permit.document ∈ gate.signed)
      (hearlier : ∀ earlier, pending.permit = some earlier → earlier.document.allowed = true)
      (hnext : next.sequence = pending.sequence ∧ next.command = pending.command ∧ next.boundary = pending.boundary ∧
        next.challenge = pending.challenge ∧ next.permit = some permit ∧ next.status = pending.status) :
      GateChange config gate { gate with requires := gate.requires.put next }
  | opened {command : OwnedCommand} {generation : Nat} {boundary : OwnershipBoundary} {now deadline : Int}
      {nonce : String} (hgeneration : command.agentGeneration = some generation)
      (hfree : gate.pending.get? command.commandId = none) (hopen : gate.closed = false) :
      GateChange config gate
        { gate with
          sequence := gate.sequence + 1
          requires := gate.requires.put
            { sequence := gate.sequence + 1, command, boundary,
              challenge := config.challengeFor command generation boundary now nonce (gate.sequence + 1), deadline }
          pending := gate.pending.put (command.commandId, gate.sequence + 1) }
  | granted {pending : PendingBoundary} {permit : OwnershipPermit} {deadline : Int}
      (hpending : gate.requires.get? pending.sequence = some pending) (hwaiting : pending.status = .waiting)
      (hpermit : pending.permit = some permit) (hallowed : permit.document.allowed = true) :
      GateChange config gate
        { gate with
          requires := gate.requires.put { pending with status := .leaving }
          deliveries := gate.deliveries.put { sequence := pending.sequence, permit, deadline }
          pending := gate.pending.remove pending.command.commandId }
  | passed {pending : PendingBoundary} {delivery : PermitDelivery} {now : Int}
      (hpending : gate.requires.get? delivery.sequence = some pending)
      (hdelivery : gate.deliveries.get? delivery.sequence = some delivery) (hopen : gate.closed = false)
      (hunused : delivery.used = false) (hlive : live delivery.permit.document now = true) :
      GateChange config gate
        { gate with
          deliveries := gate.deliveries.put { delivery with used := true }
          passed := gate.passed ++
            [{ sequence := delivery.sequence, command := pending.command, boundary := pending.boundary,
               permit := delivery.permit, now }] }

variable {config : GateConfig} {gate next : OwnershipGate}

private theorem GateChange.refl (config : GateConfig) (gate : OwnershipGate) : GateChange config gate gate :=
  .kept (.refl _) (fun _ _ h => h) rfl rfl id (fun _ h => h) rfl

private theorem sequence_of_get? {boundaries : Table PendingBoundary.sequence} {n : Nat} {pending : PendingBoundary}
    (h : boundaries.get? n = some pending) : boundaries.get? pending.sequence = some pending := by
  rw [Table.key_of_get? h]
  exact h

private theorem pendingOf_get? {c : String} {pending : PendingBoundary} (h : gate.pendingOf c = some pending) :
    ∃ entry, gate.pending.get? c = some entry ∧ gate.requires.get? entry.2 = some pending := by
  simp only [pendingOf, Option.bind_eq_bind, Option.bind_eq_some_iff] at h
  exact h

private theorem authorize_change {permit : OwnershipPermit} {now receivedAt : Int}
    (hunforged : config.permitSignature permit.document = permit.signature → permit.document ∈ gate.signed) :
    GateChange config gate (gate.afterCall (gate.authorize config permit now receivedAt)) := by
  unfold authorize
  split
  · exact .refl config gate
  rename_i hvalid
  have hsigned : permit.document ∈ gate.signed := by
    simp only [permitValid, Bool.not_eq_true', Bool.not_eq_false, Bool.and_eq_true, beq_iff_eq] at hvalid
    exact hunforged hvalid.2
  split
  · exact .refl config gate
  rename_i pending hpending
  split
  · exact .refl config gate
  rename_i hchallenge
  simp only [Bool.or_eq_true, decide_eq_true_eq, not_or, not_not] at hchallenge
  dsimp only
  split
  · rename_i hnone
    exact .stored hpending hchallenge.2 hsigned (by simp [hnone]) ⟨rfl, rfl, rfl, rfl, rfl, rfl⟩
  · rename_i earlier hearlier
    split
    · exact .refl config gate
    split
    · rename_i hallowed
      refine .stored hpending hchallenge.2 hsigned (fun other hother => ?_) ⟨rfl, rfl, rfl, rfl, rfl, rfl⟩
      rw [hearlier] at hother
      cases hother
      exact hallowed
    · exact .refl config gate

private theorem beginRequire_change {command : OwnedCommand} {boundary : OwnershipBoundary} {now monotonic : Int}
    {nonce : String} :
    GateChange config gate (gate.afterCall (gate.beginRequire config command boundary now monotonic nonce)) := by
  unfold beginRequire
  split
  · exact .refl config gate
  rename_i generation hgeneration
  split
  · exact .refl config gate
  split
  · exact .refl config gate
  split
  · exact .refl config gate
  rename_i hopen
  split
  · exact .refl config gate
  rename_i hfree
  exact .opened hgeneration (by simpa using hfree) (by simpa using hopen)

private theorem finishRequire_change {pending : PendingBoundary} {now monotonic : Int}
    (hpending : gate.requires.get? pending.sequence = some pending) (hwaiting : pending.status = .waiting) :
    GateChange config gate (gate.finishRequire pending now monotonic) := by
  unfold finishRequire
  split
  · exact .kept (boundariesKept_put hpending ⟨rfl, rfl, rfl, rfl, nofun⟩) (fun _ _ h => h) rfl rfl id
      (fun _ h => h) rfl
  · rename_i permit deadline hgranted
    unfold grantedPermit at hgranted
    split at hgranted
    · rename_i found limit hfound hlimit
      split at hgranted
      · cases hgranted
      split at hgranted
      · rename_i hallowed
        cases hgranted
        exact .granted hpending hwaiting hfound hallowed
      · cases hgranted
    · cases hgranted

private theorem leaveRequire_change {pending : PendingBoundary}
    (hpending : gate.requires.get? pending.sequence = some pending) :
    GateChange config gate (gate.leaveRequire pending) := by
  have hkept : BoundariesKept gate.requires (gate.requires.put { pending with status := .left }) :=
    boundariesKept_put hpending ⟨rfl, rfl, rfl, rfl, nofun⟩
  unfold leaveRequire
  dsimp only
  split
  · refine .kept hkept (fun c entry h => ?_) rfl rfl id (fun _ h => h) rfl
    rw [Table.get?_remove] at h
    split at h
    · cases h
    · exact h
  · exact .kept hkept (fun _ _ h => h) rfl rfl id (fun _ h => h) rfl

private theorem boundariesKept_setEvent (requires : Table PendingBoundary.sequence) (entry : String × Nat) :
    BoundariesKept requires (setEvent requires entry) := by
  unfold setEvent
  split
  · rename_i pending hfound
    have hown := sequence_of_get? hfound
    exact boundariesKept_put hown ⟨rfl, rfl, rfl, rfl, id⟩
  · exact .refl requires

private theorem cancelAll_change : GateChange config gate gate.cancelAll := by
  have hfold : ∀ (entries : List (String × Nat)) (requires : Table PendingBoundary.sequence),
      BoundariesKept requires (entries.foldl setEvent requires) := by
    intro entries
    induction entries with
    | nil => exact .refl
    | cons entry entries ih => exact fun requires => (boundariesKept_setEvent requires entry).trans (ih _)
  exact .kept (hfold _ _) (fun _ _ h => h) rfl rfl (fun _ => rfl) (fun _ h => h) rfl

private theorem validateDelivery_change {pending : PendingBoundary} {delivery : PermitDelivery} {now monotonic : Int}
    (hpending : gate.requires.get? delivery.sequence = some pending)
    (hdelivery : gate.deliveries.get? delivery.sequence = some delivery) :
    GateChange config gate (gate.afterCall (gate.validateDelivery pending delivery now monotonic)) := by
  unfold validateDelivery
  split
  · exact .refl config gate
  rename_i hopen
  split
  · exact .refl config gate
  rename_i hunused
  split
  · exact .refl config gate
  rename_i hlive
  simp only [Bool.or_eq_true, Bool.not_eq_true', not_or, Bool.not_eq_false] at hlive
  exact .passed hpending hdelivery (by simpa using hopen) (by simpa using hunused) hlive.2

/-- No signature is forged: a permit whose signature verifies is one that the control plane signed before. -/
def Unforged (config : GateConfig) (gate : OwnershipGate) : GateCall → Prop
  | .authorize permit _ _ =>
    config.permitSignature permit.document = permit.signature → permit.document ∈ gate.signed
  | _ => True

instance (config : GateConfig) (gate : OwnershipGate) : ∀ call, Decidable (Unforged config gate call)
  | .authorize _ _ _ => inferInstanceAs (Decidable (_ → _))
  | .sign _ _ _ | .require _ _ _ _ _ | .wake _ _ _ | .timeOut _ | .leave _ | .validateDelivery _ _ _ | .cancelAll =>
    isTrue trivial

/-- The step of a run is one of the changes. -/
private theorem step_change (call : GateCall) (hunforged : Unforged config gate call) :
    GateChange config gate (gate.step config call) := by
  cases call with
  | sign challenge reason now =>
    exact .kept (.refl _) (fun _ _ h => h) rfl rfl id (fun _ h => List.mem_cons_of_mem _ h) rfl
  | authorize permit now receivedAt => exact authorize_change hunforged
  | require command boundary now monotonic nonce => exact beginRequire_change
  | wake sequence now monotonic =>
    simp only [step]
    split
    · rename_i pending hpending
      split
      · rename_i hready
        exact finishRequire_change (sequence_of_get? hpending) hready.1
      · exact .refl config gate
    · exact .refl config gate
  | timeOut sequence =>
    simp only [step]
    split
    · rename_i pending hpending
      split
      · have hown := sequence_of_get? hpending
        exact .kept (boundariesKept_put hown ⟨rfl, rfl, rfl, rfl, nofun⟩) (fun _ _ h => h) rfl rfl id
          (fun _ h => h) rfl
      · exact .refl config gate
    · exact .refl config gate
  | leave sequence =>
    simp only [step]
    split
    · rename_i pending hpending
      split
      · exact leaveRequire_change (sequence_of_get? hpending)
      · exact .refl config gate
    · exact .refl config gate
  | validateDelivery sequence now monotonic =>
    simp only [step]
    split
    · rename_i pending delivery hpending hdelivery
      have hsame : delivery.sequence = sequence := Table.key_of_get? hdelivery
      subst hsame
      exact validateDelivery_change hpending hdelivery
    · exact .refl config gate
  | cancelAll => exact cancelAll_change

/-! ### The invariant -/

/-- What holds of the gate as long as no signature is forged. -/
structure Valid (config : GateConfig) (gate : OwnershipGate) : Prop where
  bounded : ∀ n pending, gate.requires.get? n = some pending → n ≤ gate.sequence
  issued : ∀ n pending, gate.requires.get? n = some pending → ∃ generation now nonce,
    pending.command.agentGeneration = some generation ∧
      pending.challenge = config.challengeFor pending.command generation pending.boundary now nonce n
  accepted : ∀ n pending permit, gate.requires.get? n = some pending → pending.permit = some permit →
    permit.document.challenge = pending.challenge ∧ permit.document ∈ gate.signed
  entry : ∀ c found, gate.pending.get? c = some found →
    ∃ pending, gate.requires.get? found.2 = some pending ∧ pending.command.commandId = c
  undelivered : ∀ c found, gate.pending.get? c = some found → gate.deliveries.get? found.2 = none
  waiting : ∀ n pending, gate.requires.get? n = some pending → pending.status = .waiting →
    gate.deliveries.get? n = none
  handed : ∀ n delivery, gate.deliveries.get? n = some delivery → delivery.permit.document.allowed = true ∧
    delivery.permit.document ∈ gate.signed ∧
      ∃ pending, gate.requires.get? n = some pending ∧ delivery.permit.document.challenge = pending.challenge
  calls : ∀ call ∈ gate.passed, live call.permit.document call.now = true ∧
    ∃ delivery pending, gate.deliveries.get? call.sequence = some delivery ∧ delivery.used = true ∧
      call.permit = delivery.permit ∧ gate.requires.get? call.sequence = some pending ∧
      call.command = pending.command ∧ call.boundary = pending.boundary
  once : (gate.passed.map PhysicalCall.sequence).Nodup

private theorem valid_initial (config : GateConfig) : initial.Valid config := by
  constructor <;> simp [initial]

private theorem Valid.kept (h : gate.Valid config) (hrequires : BoundariesKept gate.requires next.requires)
    (hpending : ∀ c entry, next.pending.get? c = some entry → gate.pending.get? c = some entry)
    (hdeliveries : next.deliveries = gate.deliveries) (hsequence : next.sequence = gate.sequence)
    (hsigned : gate.signed ⊆ next.signed) (hpassed : next.passed = gate.passed) : next.Valid config where
  bounded n found hn := by
    obtain ⟨pending, hget, -⟩ := hrequires.backward n found hn
    exact hsequence ▸ h.bounded n pending hget
  issued n found hn := by
    obtain ⟨pending, hget, hkept⟩ := hrequires.backward n found hn
    rw [hkept.command, hkept.challenge, hkept.boundary]
    exact h.issued n pending hget
  accepted n found permit hn hpermit := by
    obtain ⟨pending, hget, hkept⟩ := hrequires.backward n found hn
    have haccepted := h.accepted n pending permit hget (hkept.permit ▸ hpermit)
    exact ⟨haccepted.1.trans hkept.challenge.symm, hsigned haccepted.2⟩
  entry c found hc := by
    obtain ⟨pending, hget, hcommand⟩ := h.entry c found (hpending c found hc)
    obtain ⟨other, hother, hkept⟩ := hrequires.forward _ pending hget
    exact ⟨other, hother, hkept.command ▸ hcommand⟩
  undelivered c found hc := hdeliveries ▸ h.undelivered c found (hpending c found hc)
  waiting n found hn hwaiting := by
    obtain ⟨pending, hget, hkept⟩ := hrequires.backward n found hn
    exact hdeliveries ▸ h.waiting n pending hget (hkept.status hwaiting)
  handed n delivery hn := by
    obtain ⟨hallowed, hin, pending, hget, hchallenge⟩ := h.handed n delivery (hdeliveries ▸ hn)
    obtain ⟨other, hother, hkept⟩ := hrequires.forward n pending hget
    exact ⟨hallowed, hsigned hin, other, hother, hchallenge.trans hkept.challenge.symm⟩
  calls call hmem := by
    obtain ⟨hlive, delivery, pending, hdelivery, hused, hpermit, hget, hcommand, hboundary⟩ :=
      h.calls call (hpassed ▸ hmem)
    obtain ⟨other, hother, hkept⟩ := hrequires.forward _ pending hget
    exact ⟨hlive, delivery, other, hdeliveries ▸ hdelivery, hused, hpermit, hother, hcommand.trans hkept.command.symm,
      hboundary.trans hkept.boundary.symm⟩
  once := hpassed ▸ h.once

/-- A permit that is stored for a boundary names its challenge and was signed. -/
private theorem Valid.stored (h : gate.Valid config) {pending stored : PendingBoundary} {permit : OwnershipPermit}
    (hpending : gate.requires.get? stored.sequence = some pending)
    (hchallenge : pending.challenge = permit.document.challenge) (hsigned : permit.document ∈ gate.signed)
    (hstored : stored.command = pending.command ∧ stored.boundary = pending.boundary ∧
      stored.challenge = pending.challenge ∧ stored.permit = some permit ∧ stored.status = pending.status) :
    ({ gate with requires := gate.requires.put stored } : OwnershipGate).Valid config := by
  obtain ⟨hcommand, hboundary, hsame, hpermit, hstatus⟩ := hstored
  -- the boundary under the changed sequence number differs in its permit alone
  have hget : ∀ n found, (gate.requires.put stored).get? n = some found → ∃ earlier,
      gate.requires.get? n = some earlier ∧ found.command = earlier.command ∧ found.boundary = earlier.boundary ∧
        found.challenge = earlier.challenge ∧ found.status = earlier.status ∧
        (found.permit = earlier.permit ∨ found = stored ∧ n = stored.sequence) := by
    intro n found hn
    rw [Table.get?_put] at hn
    split at hn
    · rename_i hn'
      subst hn'
      cases hn
      exact ⟨pending, hpending, hcommand, hboundary, hsame, hstatus, .inr ⟨rfl, rfl⟩⟩
    · exact ⟨found, hn, rfl, rfl, rfl, rfl, .inl rfl⟩
  have hkeep : ∀ n earlier, gate.requires.get? n = some earlier → ∃ found,
      (gate.requires.put stored).get? n = some found ∧ found.command = earlier.command ∧
        found.boundary = earlier.boundary ∧ found.challenge = earlier.challenge := by
    intro n earlier hn
    rw [Table.get?_put]
    split
    · rename_i hn'
      subst hn'
      rw [hpending] at hn
      cases hn
      exact ⟨stored, rfl, hcommand, hboundary, hsame⟩
    · exact ⟨earlier, hn, rfl, rfl, rfl⟩
  refine ⟨?_, ?_, ?_, ?_, h.undelivered, ?_, ?_, ?_, h.once⟩
  · intro n found hn
    obtain ⟨earlier, hearlier, -⟩ := hget n found hn
    exact h.bounded n earlier hearlier
  · intro n found hn
    obtain ⟨earlier, hearlier, hc, hb, hch, -⟩ := hget n found hn
    rw [hc, hb, hch]
    exact h.issued n earlier hearlier
  · intro n found other hn hother
    obtain ⟨earlier, hearlier, -, -, hch, -, hsamePermit | ⟨rfl, rfl⟩⟩ := hget n found hn
    · rw [hch]
      exact h.accepted n earlier other hearlier (hsamePermit ▸ hother)
    · rw [hpermit] at hother
      cases hother
      exact ⟨(hsame.trans hchallenge).symm, hsigned⟩
  · intro c found hc
    obtain ⟨earlier, hearlier, hcommandId⟩ := h.entry c found hc
    obtain ⟨kept, hkept, hc', -⟩ := hkeep _ earlier hearlier
    exact ⟨kept, hkept, hc' ▸ hcommandId⟩
  · intro n found hn hwaiting
    obtain ⟨earlier, hearlier, -, -, -, hs, -⟩ := hget n found hn
    exact h.waiting n earlier hearlier (hs ▸ hwaiting)
  · intro n delivery hn
    obtain ⟨hallowed, hin, earlier, hearlier, hnames⟩ := h.handed n delivery hn
    obtain ⟨kept, hkept, -, -, hch⟩ := hkeep n earlier hearlier
    exact ⟨hallowed, hin, kept, hkept, hnames.trans hch.symm⟩
  · intro call hmem
    obtain ⟨hlive, delivery, earlier, hdelivery, hused, hnames, hearlier, hc, hb⟩ := h.calls call hmem
    obtain ⟨kept, hkept, hc', hb', -⟩ := hkeep _ earlier hearlier
    exact ⟨hlive, delivery, kept, hdelivery, hused, hnames, hkept, hc.trans hc'.symm, hb.trans hb'.symm⟩

private theorem Valid.opened (h : gate.Valid config) {command : OwnedCommand} {generation : Nat} {now : Int}
    {nonce : String} {pending : PendingBoundary} (hgeneration : command.agentGeneration = some generation)
    (hsequence : pending.sequence = gate.sequence + 1)
    (hcommand : pending.command = command) (hpermit : pending.permit = none)
    (hchallenge : pending.challenge =
      config.challengeFor command generation pending.boundary now nonce pending.sequence) :
    ({ gate with
        sequence := gate.sequence + 1
        requires := gate.requires.put pending
        pending := gate.pending.put (command.commandId, gate.sequence + 1) } : OwnershipGate).Valid config := by
  have hfresh : gate.requires.get? pending.sequence = none := by
    cases hget : gate.requires.get? pending.sequence with
    | none => rfl
    | some found =>
      have := h.bounded _ found hget
      omega
  have hundelivered : gate.deliveries.get? pending.sequence = none := by
    cases hget : gate.deliveries.get? pending.sequence with
    | none => rfl
    | some delivery =>
      obtain ⟨-, -, found, hfound, -⟩ := h.handed _ delivery hget
      rw [hfresh] at hfound
      cases hfound
  have hget : ∀ n found, (gate.requires.put pending).get? n = some found →
      n = pending.sequence ∧ found = pending ∨ gate.requires.get? n = some found := by
    intro n found hn
    rw [Table.get?_put] at hn
    split at hn
    · rename_i hn'
      cases hn
      exact .inl ⟨hn', rfl⟩
    · exact .inr hn
  have hkeep : ∀ n found, gate.requires.get? n = some found → (gate.requires.put pending).get? n = some found := by
    intro n found hn
    rw [Table.get?_put_ne]
    · exact hn
    · rintro rfl
      rw [hfresh] at hn
      cases hn
  refine ⟨?_, ?_, ?_, ?_, ?_, ?_, ?_, ?_, h.once⟩
  · intro n found hn
    obtain ⟨rfl, -⟩ | hold := hget n found hn
    · exact Nat.le_of_eq hsequence
    · exact Nat.le_succ_of_le (h.bounded n found hold)
  · intro n found hn
    obtain ⟨rfl, rfl⟩ | hold := hget n found hn
    · exact ⟨generation, now, nonce, hcommand ▸ hgeneration, hcommand ▸ hchallenge⟩
    · exact h.issued n found hold
  · intro n found permit hn hother
    obtain ⟨rfl, rfl⟩ | hold := hget n found hn
    · rw [hpermit] at hother
      cases hother
    · exact h.accepted n found permit hold hother
  · intro c found hc
    rw [Table.get?_put] at hc
    split at hc
    · rename_i hc'
      cases hc
      rw [← hsequence]
      exact ⟨pending, Table.get?_put_self _ _, by rw [hcommand, hc']⟩
    · obtain ⟨earlier, hearlier, hid⟩ := h.entry c found hc
      exact ⟨earlier, hkeep _ earlier hearlier, hid⟩
  · intro c found hc
    rw [Table.get?_put] at hc
    split at hc
    · cases hc
      rw [← hsequence]
      exact hundelivered
    · exact h.undelivered c found hc
  · intro n found hn hwaiting
    obtain ⟨rfl, -⟩ | hold := hget n found hn
    · exact hundelivered
    · exact h.waiting n found hold hwaiting
  · intro n delivery hn
    obtain ⟨hallowed, hin, earlier, hearlier, hnames⟩ := h.handed n delivery hn
    exact ⟨hallowed, hin, earlier, hkeep n earlier hearlier, hnames⟩
  · intro call hmem
    obtain ⟨hlive, delivery, earlier, hdelivery, hused, hnames, hearlier, hc⟩ := h.calls call hmem
    exact ⟨hlive, delivery, earlier, hdelivery, hused, hnames, hkeep _ earlier hearlier, hc⟩

/-- A boundary that no command maps to any more may hand its permit out. -/
private theorem Valid.handOut (h : gate.Valid config) (pending : PendingBoundary) {permit : OwnershipPermit}
    {deadline : Int} (hpending : gate.requires.get? pending.sequence = some pending)
    (hleft : pending.status ≠ .waiting) (hpermit : pending.permit = some permit)
    (hallowed : permit.document.allowed = true) (hnew : gate.deliveries.get? pending.sequence = none)
    (hfree : ∀ c found, gate.pending.get? c = some found → found.2 ≠ pending.sequence) :
    ({ gate with deliveries := gate.deliveries.put { sequence := pending.sequence, permit, deadline } } :
      OwnershipGate).Valid config := by
  have haccepted := h.accepted _ pending permit hpending hpermit
  refine ⟨h.bounded, h.issued, h.accepted, h.entry, ?_, ?_, ?_, ?_, h.once⟩
  · intro c found hc
    rw [Table.get?_put_ne]
    · exact h.undelivered c found hc
    · exact hfree c found hc
  · intro n found hn hwaiting
    rw [Table.get?_put_ne]
    · exact h.waiting n found hn hwaiting
    · rintro rfl
      rw [hpending] at hn
      cases hn
      exact hleft hwaiting
  · intro n delivery hn
    rw [Table.get?_put] at hn
    split at hn
    · rename_i hn'
      cases hn
      exact ⟨hallowed, haccepted.2, pending, hn' ▸ hpending, haccepted.1⟩
    · exact h.handed n delivery hn
  · intro call hmem
    obtain ⟨hlive, delivery, found, hdelivery, hrest⟩ := h.calls call hmem
    refine ⟨hlive, delivery, found, ?_, hrest⟩
    rw [Table.get?_put_ne]
    · exact hdelivery
    · intro hsame
      change call.sequence = pending.sequence at hsame
      rw [hsame, hnew] at hdelivery
      cases hdelivery

private theorem Valid.granted (h : gate.Valid config) {pending : PendingBoundary} {permit : OwnershipPermit}
    {deadline : Int} (hpending : gate.requires.get? pending.sequence = some pending)
    (hwaiting : pending.status = .waiting) (hpermit : pending.permit = some permit)
    (hallowed : permit.document.allowed = true) :
    ({ gate with
        requires := gate.requires.put { pending with status := .leaving }
        deliveries := gate.deliveries.put { sequence := pending.sequence, permit, deadline }
        pending := gate.pending.remove pending.command.commandId } : OwnershipGate).Valid config := by
  have hremoved : ∀ c found, (gate.pending.remove pending.command.commandId).get? c = some found →
      c ≠ pending.command.commandId ∧ gate.pending.get? c = some found := by
    intro c found hc
    rw [Table.get?_remove] at hc
    split at hc
    · cases hc
    · rename_i hne
      exact ⟨hne, hc⟩
  have hleaving : ({ gate with
      requires := gate.requires.put { pending with status := .leaving }
      pending := gate.pending.remove pending.command.commandId } : OwnershipGate).Valid config :=
    h.kept (boundariesKept_put hpending ⟨rfl, rfl, rfl, rfl, nofun⟩)
      (fun c found hc => (hremoved c found hc).2) rfl rfl
      (fun _ hin => hin) rfl
  refine hleaving.handOut { pending with status := .leaving } (Table.get?_put_self _ _) (by simp) hpermit hallowed
    (h.waiting _ pending hpending hwaiting) fun c found hc hsame => ?_
  obtain ⟨hne, hold⟩ := hremoved c found hc
  obtain ⟨other, hother, hid⟩ := h.entry c found hold
  rw [hsame] at hother
  change gate.requires.get? pending.sequence = some other at hother
  rw [hpending] at hother
  cases hother
  exact hne hid.symm

private theorem Valid.passed (h : gate.Valid config) {pending : PendingBoundary} {delivery : PermitDelivery}
    {now : Int} (hpending : gate.requires.get? delivery.sequence = some pending)
    (hdelivery : gate.deliveries.get? delivery.sequence = some delivery) (hunused : delivery.used = false)
    (hlive : live delivery.permit.document now = true) :
    ({ gate with
        deliveries := gate.deliveries.put { delivery with used := true }
        passed := gate.passed ++
          [{ sequence := delivery.sequence, command := pending.command, boundary := pending.boundary,
             permit := delivery.permit, now }] } :
      OwnershipGate).Valid config := by
  have hfresh : ∀ call ∈ gate.passed, call.sequence ≠ delivery.sequence := by
    intro call hmem hsame
    obtain ⟨-, found, -, hfound, hused, -⟩ := h.calls call hmem
    rw [hsame, hdelivery] at hfound
    cases hfound
    rw [hunused] at hused
    cases hused
  have hdeliveries : ∀ n, (gate.deliveries.put { delivery with used := true }).get? n = none ↔
      gate.deliveries.get? n = none := by
    intro n
    rw [Table.get?_put]
    split
    · rename_i hsame
      change n = delivery.sequence at hsame
      simp [hsame, hdelivery]
    · rfl
  refine ⟨h.bounded, h.issued, h.accepted, h.entry, ?_, ?_, ?_, ?_, ?_⟩
  · exact fun c found hc => (hdeliveries _).mpr (h.undelivered c found hc)
  · exact fun n found hn hwaiting => (hdeliveries n).mpr (h.waiting n found hn hwaiting)
  · intro n other hn
    rw [Table.get?_put] at hn
    split at hn
    · rename_i hsame
      cases hn
      exact h.handed n delivery (hsame ▸ hdelivery)
    · exact h.handed n other hn
  · intro call hmem
    rcases List.mem_append.mp hmem with hold | hnew
    · obtain ⟨hcall, found, other, hfound, hrest⟩ := h.calls call hold
      refine ⟨hcall, found, other, ?_, hrest⟩
      rw [Table.get?_put_ne]
      · exact hfound
      · exact hfresh call hold
    · rw [List.mem_singleton.mp hnew]
      exact ⟨hlive, { delivery with used := true }, pending, Table.get?_put_self _ _, rfl, rfl, hpending, rfl, rfl⟩
  · rw [List.map_append, List.nodup_append]
    refine ⟨h.once, by simp, ?_⟩
    intro n hn m hm
    obtain ⟨call, hmem, rfl⟩ := List.mem_map.mp hn
    rw [List.map_singleton, List.mem_singleton] at hm
    exact hm ▸ hfresh call hmem

private theorem GateChange.valid (hchange : GateChange config gate next) (h : gate.Valid config) :
    next.Valid config := by
  cases hchange with
  | kept hrequires hpending hdeliveries hsequence hclosed hin hpassed =>
    exact h.kept hrequires hpending hdeliveries hsequence hin hpassed
  | stored hpending hchallenge hsigned hearlier hstored =>
    obtain ⟨entry, -, hget⟩ := pendingOf_get? hpending
    exact h.stored (hstored.1 ▸ sequence_of_get? hget) hchallenge hsigned hstored.2
  | opened hgeneration hfree hopen => exact h.opened hgeneration rfl rfl rfl rfl
  | granted hpending hwaiting hpermit hallowed => exact h.granted hpending hwaiting hpermit hallowed
  | passed hpending hdelivery hopen hunused hlive => exact h.passed hpending hdelivery hunused hlive

private theorem valid_exec {calls : List GateCall} (hrun : Run.Along (step config) (Unforged config) gate calls)
    (h : gate.Valid config) : (Run.exec (step config) gate calls).Valid config :=
  Run.invariant_exec (fun _ call hb hunforged => (step_change call hunforged).valid hb) h hrun

/-! ### Denials and cancellation -/

/-- The boundary `n` has a denial, and no permit of it was handed out. -/
def Denied (n : Nat) (gate : OwnershipGate) : Prop :=
  (∃ pending permit, gate.requires.get? n = some pending ∧ pending.permit = some permit ∧
    permit.document.allowed = false) ∧ gate.deliveries.get? n = none

private theorem GateChange.denied {n : Nat} (hchange : GateChange config gate next) (hvalid : gate.Valid config)
    (h : gate.Denied n) : next.Denied n := by
  obtain ⟨⟨pending, permit, hpending, hpermit, hdenied⟩, hnone⟩ := h
  cases hchange with
  | kept hrequires _ hdeliveries _ _ _ _ =>
    obtain ⟨after, hafter, hkept⟩ := hrequires.forward n pending hpending
    exact ⟨⟨after, permit, hafter, hkept.permit ▸ hpermit, hdenied⟩, hdeliveries ▸ hnone⟩
  | @stored other stored _ hother _ _ hearlier hstored =>
    obtain ⟨entry, -, hget⟩ := pendingOf_get? hother
    have hown : gate.requires.get? other.sequence = some other := sequence_of_get? hget
    refine ⟨⟨pending, permit, ?_, hpermit, hdenied⟩, hnone⟩
    rw [Table.get?_put_ne]
    · exact hpending
    · rw [hstored.1]
      rintro rfl
      rw [hown] at hpending
      cases hpending
      rw [hearlier permit hpermit] at hdenied
      cases hdenied
  | opened _ _ _ =>
    refine ⟨⟨pending, permit, ?_, hpermit, hdenied⟩, hnone⟩
    rw [Table.get?_put_ne]
    · exact hpending
    · have := hvalid.bounded n pending hpending
      change n ≠ gate.sequence + 1
      omega
  | @granted other granted _ hother _ hgranted hallowed =>
    have hne : n ≠ other.sequence := by
      rintro rfl
      rw [hother] at hpending
      cases hpending
      rw [hgranted] at hpermit
      cases hpermit
      rw [hallowed] at hdenied
      cases hdenied
    refine ⟨⟨pending, permit, ?_, hpermit, hdenied⟩, ?_⟩
    · rw [Table.get?_put_ne]
      · exact hpending
      · exact hne
    · rw [Table.get?_put_ne]
      · exact hnone
      · exact hne
  | @passed _ delivery _ _ hdelivery _ _ _ =>
    refine ⟨⟨pending, permit, hpending, hpermit, hdenied⟩, ?_⟩
    rw [Table.get?_put_ne]
    · exact hnone
    · rintro rfl
      change gate.deliveries.get? delivery.sequence = none at hnone
      rw [hdelivery] at hnone
      cases hnone

/-- An accepted denial leaves its boundary denied. -/
private theorem denied_of_authorize {permit : OwnershipPermit} {now receivedAt : Int} {after : OwnershipGate}
    (hvalid : gate.Valid config) (hdenied : permit.document.allowed = false)
    (haccepted : gate.authorize config permit now receivedAt = .ok after) :
    ∃ pending, after.requires.get? pending.sequence = some pending ∧
      pending.challenge = permit.document.challenge ∧ after.Denied pending.sequence := by
  unfold authorize at haccepted
  split at haccepted
  · cases haccepted
  split at haccepted
  · cases haccepted
  rename_i pending hpending
  obtain ⟨entry, hentry, hget⟩ := pendingOf_get? hpending
  have hown : gate.requires.get? pending.sequence = some pending := sequence_of_get? hget
  have hnone : gate.deliveries.get? pending.sequence = none := by
    rw [Table.key_of_get? hget]
    exact hvalid.undelivered _ entry hentry
  split at haccepted
  · cases haccepted
  rename_i hchallenge
  simp only [Bool.or_eq_true, decide_eq_true_eq, not_or, not_not] at hchallenge
  dsimp only at haccepted
  split at haccepted
  · cases haccepted
    exact ⟨_, Table.get?_put_self _ _, hchallenge.2, ⟨_, permit, Table.get?_put_self _ _, rfl, hdenied⟩, hnone⟩
  · rename_i earlier hearlier
    split at haccepted
    · rename_i hsame
      cases haccepted
      exact ⟨pending, hown, hchallenge.2, ⟨pending, earlier, hown, hearlier, hsame.1.trans hdenied⟩, hnone⟩
    split at haccepted
    · cases haccepted
      exact ⟨_, Table.get?_put_self _ _, hchallenge.2, ⟨_, permit, Table.get?_put_self _ _, rfl, hdenied⟩, hnone⟩
    · cases haccepted

private theorem GateChange.closed (hchange : GateChange config gate next) (h : gate.closed = true) :
    next.closed = true ∧ next.passed = gate.passed := by
  cases hchange with
  | kept _ _ _ _ hclosed _ hpassed => exact ⟨hclosed h, hpassed⟩
  | stored _ _ _ _ _ => exact ⟨h, rfl⟩
  | opened _ _ hopen =>
    rw [hopen] at h
    cases h
  | granted _ _ _ _ => exact ⟨h, rfl⟩
  | passed _ _ hopen _ _ =>
    rw [hopen] at h
    cases h

/-! ### Runs -/

private theorem Valid.challenge_sequence (h : gate.Valid config) {n : Nat} {pending : PendingBoundary}
    (hpending : gate.requires.get? n = some pending) : pending.challenge.sequence = n := by
  obtain ⟨generation, now, nonce, -, hchallenge⟩ := h.issued n pending hpending
  rw [hchallenge]
  rfl

private theorem Valid.delivery_sequence (h : gate.Valid config) {n : Nat} {delivery : PermitDelivery}
    (hdelivery : gate.deliveries.get? n = some delivery) : delivery.permit.document.challenge.sequence = n := by
  obtain ⟨-, -, pending, hpending, hchallenge⟩ := h.handed n delivery hdelivery
  rw [hchallenge]
  exact h.challenge_sequence hpending

/-- A physical call used a permit that was signed, allows it, is live, and names the challenge that was issued for the
command and the boundary of the call. -/
def Authorized (config : GateConfig) (gate : OwnershipGate) (call : PhysicalCall) : Prop :=
  call.permit.document ∈ gate.signed ∧ call.permit.document.allowed = true ∧
    (call.permit.document.checkedAt ≤ call.now ∧ call.now < call.permit.document.expiresAt) ∧
    ∃ pending generation now nonce, gate.requires.get? call.sequence = some pending ∧
      call.permit.document.challenge = pending.challenge ∧
      pending.challenge = config.challengeFor call.command generation call.boundary now nonce call.sequence

private theorem Valid.authorized (h : gate.Valid config) {call : PhysicalCall} (hmem : call ∈ gate.passed) :
    gate.Authorized config call := by
  obtain ⟨hlive, delivery, pending, hdelivery, -, hpermit, hpending, hcommand, hboundary⟩ := h.calls call hmem
  obtain ⟨hallowed, hsigned, handed, hhanded, hchallenge⟩ := h.handed _ delivery hdelivery
  obtain ⟨generation, now, nonce, -, hissued⟩ := h.issued _ pending hpending
  rw [hpending] at hhanded
  cases hhanded
  refine ⟨hpermit ▸ hsigned, hpermit ▸ hallowed,
    by simpa [live] using hlive, pending, generation, now, nonce, hpending, hpermit ▸ hchallenge, ?_⟩
  rw [hcommand, hboundary]
  exact hissued

private theorem Valid.permits_nodup (h : gate.Valid config) : (gate.passed.map PhysicalCall.permit).Nodup := by
  refine List.Nodup.of_map (fun permit : OwnershipPermit => permit.document.challenge.sequence) ?_
  have hsame : (gate.passed.map PhysicalCall.permit).map (fun permit => permit.document.challenge.sequence) =
      gate.passed.map PhysicalCall.sequence := by
    rw [List.map_map]
    refine List.map_congr_left fun call hmem => ?_
    obtain ⟨-, delivery, -, hdelivery, -, hpermit, -⟩ := h.calls call hmem
    change call.permit.document.challenge.sequence = call.sequence
    rw [hpermit]
    exact h.delivery_sequence hdelivery
  rw [hsame]
  exact h.once

/-- After an accepted denial, no permit for its challenge is ever handed out. -/
private theorem never_handed_out_after_denial {before after : List GateCall} {permit : OwnershipPermit}
    {now receivedAt : Int} {accepted : OwnershipGate}
    (hrun : Run.Along (step config) (Unforged config) initial (before ++ .authorize permit now receivedAt :: after))
    (hdenied : permit.document.allowed = false)
    (haccepted : (Run.exec (step config) initial before).authorize config permit now receivedAt = .ok accepted)
    {n : Nat} {delivery : PermitDelivery}
    (hdelivery : (Run.exec (step config) initial
      (before ++ .authorize permit now receivedAt :: after)).deliveries.get? n = some delivery) :
    delivery.permit.document.challenge ≠ permit.document.challenge := by
  obtain ⟨hbefore, hunforged, hafter⟩ := hrun.split
  have hvalid := valid_exec hbefore (valid_initial config)
  have hstep : (Run.exec (step config) initial before).step config (.authorize permit now receivedAt) = accepted := by
    change afterCall _ (authorize _ config permit now receivedAt) = accepted
    rw [haccepted]
    rfl
  have hvalid' : accepted.Valid config := hstep ▸ (step_change _ hunforged).valid hvalid
  obtain ⟨pending, hpending, hchallenge, hdenies⟩ := denied_of_authorize hvalid hdenied haccepted
  rw [hstep] at hafter
  -- the denial stays to the end of the run, and with it the gate's invariant
  have hend := Run.invariant_exec (I := fun gate => gate.Valid config ∧ gate.Denied pending.sequence)
    (fun gate call hb hu => ⟨(step_change call hu).valid hb.1, (step_change call hu).denied hb.1 hb.2⟩)
    ⟨hvalid', hdenies⟩ hafter
  rw [Run.exec_append, Run.exec_cons, hstep] at hdelivery
  intro hsame
  have hn : n = pending.sequence := by
    rw [← hend.1.delivery_sequence hdelivery, hsame, ← hchallenge]
    exact hvalid'.challenge_sequence hpending
  rw [hn, hend.2.2] at hdelivery
  cases hdelivery

private theorem passed_after_cancelAll {before after : List GateCall}
    (hrun : Run.Along (step config) (Unforged config) initial (before ++ .cancelAll :: after)) :
    (Run.exec (step config) initial (before ++ .cancelAll :: after)).passed =
      (Run.exec (step config) initial before).passed := by
  obtain ⟨-, -, hafter⟩ := hrun.split
  rw [Run.exec_append, Run.exec_cons]
  refine (Run.invariant_exec (I := fun gate => gate.closed = true ∧
    gate.passed = (Run.exec (step config) initial before).passed) (fun gate call hb hu => ?_) ⟨rfl, rfl⟩ hafter).2
  obtain ⟨hclosed, hpassed⟩ := (step_change call hu).closed hb.1
  exact ⟨hclosed, hpassed.trans hb.2⟩

/-- Over every run without forged signatures: each physical call used a signed, allowing, live permit for the
challenge of its own command and boundary; no permit was used twice; a denial that was accepted is final for its
challenge; and nothing passes after `cancel_all`. -/
theorem physical_calls_hold_final_permits (config : GateConfig) (calls : List GateCall)
    (hrun : Run.Along (step config) (Unforged config) initial calls) :
    (∀ call ∈ (Run.exec (step config) initial calls).passed,
      (Run.exec (step config) initial calls).Authorized config call) ∧
    ((Run.exec (step config) initial calls).passed.map PhysicalCall.permit).Nodup ∧
    (∀ before permit now receivedAt after accepted, calls = before ++ .authorize permit now receivedAt :: after →
      permit.document.allowed = false →
      (Run.exec (step config) initial before).authorize config permit now receivedAt = .ok accepted →
      ∀ n delivery, (Run.exec (step config) initial calls).deliveries.get? n = some delivery →
        delivery.permit.document.challenge ≠ permit.document.challenge) ∧
    ∀ before after, calls = before ++ .cancelAll :: after →
      (Run.exec (step config) initial calls).passed = (Run.exec (step config) initial before).passed := by
  have hvalid := valid_exec hrun (valid_initial config)
  refine ⟨fun call hmem => hvalid.authorized hmem, hvalid.permits_nodup, ?_, ?_⟩
  · rintro before permit now receivedAt after accepted rfl hdenied haccepted n delivery hdelivery
    exact never_handed_out_after_denial hrun hdenied haccepted hdelivery
  · rintro before after rfl
    exact passed_after_cancelAll hrun

def resetGateConfig : GateConfig where
  bootId := "boot"
  commandIdentity command := command.commandId ++ command.document
  permitSignature document := document.challenge.nonce ++ document.reason ++ toString document.checkedAt

def resetCommand : OwnedCommand :=
  { commandId := "reset", workflowRequestId := "w", incidentId := "i", nodeId := "n", agentGeneration := some 1,
    fencingToken := 1, ownershipGuard := some ownershipProtocol, expiresAt := 60000000 }

def resetChallenge : OwnershipChallenge :=
  resetGateConfig.challengeFor resetCommand 1 .agentPreSpawn 0 "nonce" 1

/-- A reset that is permitted and delivered, a second delivery of its permit, and the end of the agent. -/
def resetCalls : List GateCall :=
  [.require resetCommand .agentPreSpawn 0 0 "nonce", .sign resetChallenge "OK" 1,
    .authorize (signPermit resetGateConfig resetChallenge "OK" 1) 2 2, .wake 1 3 3, .validateDelivery 1 4 4, .leave 1,
    .validateDelivery 1 5 5, .cancelAll, .validateDelivery 1 6 6]

theorem physical_calls_hold_final_permits_reset :
    (Run.exec (step resetGateConfig) initial resetCalls).passed.length = 1 ∧
      (∀ call ∈ (Run.exec (step resetGateConfig) initial resetCalls).passed,
        (Run.exec (step resetGateConfig) initial resetCalls).Authorized resetGateConfig call) :=
  ⟨by decide, (physical_calls_hold_final_permits resetGateConfig resetCalls (by decide)).1⟩

end OwnershipGate

end GpuFaultRecovery
