import Mathlib.Order.Lattice
import GpuFaultRecovery.AgentRegistry

/-!
# Fencing of node agents

However the replicas interleave their heartbeats, drains, revocations and reactivations, the record of a node moves
forward: its generation and its times never fall, and a generation stands for one process. The incarnation on record
is retired exactly if the agent is revoked. An incarnation that another has replaced stays shut out until the
generation has risen by the window of retired incarnations.
-/

namespace GpuFaultRecovery

open Optimistic

/-! ### The last items of a list -/

section Window
variable {x e : String} {l : List String}

/-- How many items stand behind the last `x`. -/
def behind (x : String) (l : List String) : Nat := l.reverse.idxOf x

private theorem reverse_lastItems (n : Nat) (l : List String) : (lastItems n l).reverse = l.reverse.take n := by
  rw [lastItems, List.reverse_drop]
  rcases Nat.le_total l.length n with h | h
  · rw [Nat.sub_eq_zero_of_le h, Nat.sub_zero, List.take_of_length_le (by simp),
      List.take_of_length_le (by simpa using h)]
  · rw [Nat.sub_sub_self h]

private theorem mem_of_mem_lastItems {n : Nat} (h : x ∈ lastItems n l) : x ∈ l := List.mem_of_mem_drop h

private theorem behind_lastItems {n : Nat} (hx : x ∈ l) (h : behind x l < n) :
    x ∈ lastItems n l ∧ behind x (lastItems n l) = behind x l := by
  have hmem : x ∈ l.reverse.take n := (List.mem_take_iff_idxOf_lt (List.mem_reverse.mpr hx)).mpr h
  refine ⟨List.mem_reverse.mp (by rwa [reverse_lastItems]), ?_⟩
  rw [behind, reverse_lastItems, behind]
  nth_rewrite 2 [← List.take_append_drop n l.reverse]
  rw [List.idxOf_append_of_mem hmem]

private theorem behind_append_self : behind x (l ++ [x]) = 0 := by
  simp [behind]

private theorem behind_append_ne (h : x ≠ e) : behind x (l ++ [e]) = behind x l + 1 := by
  rw [behind, List.reverse_append, List.reverse_singleton, List.singleton_append, List.idxOf_cons_ne _ h.symm, behind]

private theorem idxOf_filter_le (p : String → Bool) (hp : p x = true) (l : List String) :
    (l.filter p).idxOf x ≤ l.idxOf x := by
  induction l with
  | nil => simp
  | cons y l ih =>
    by_cases hyx : y = x
    · subst hyx
      simp [hp]
    · by_cases hpy : p y = true
      · rw [List.filter_cons_of_pos hpy, List.idxOf_cons_ne _ hyx, List.idxOf_cons_ne _ hyx]
        omega
      · rw [List.filter_cons_of_neg hpy, List.idxOf_cons_ne _ hyx]
        omega

private theorem behind_filter_le (p : String → Bool) (hp : p x = true) : behind x (l.filter p) ≤ behind x l := by
  rw [behind, behind, ← List.filter_reverse]
  exact idxOf_filter_le p hp l.reverse

end Window

/-! ### What a pass does to a record -/

/-- What fixes the process behind a record: a generation stands for one of these. -/
structure AgentFence where
  incarnation : String
  identity : AgentIdentity
  nodeActionKeyVersion : Nat
  endpoint : String
  tlsCertificatePem : Option String
  bootId : Option String
  nodeInstanceId : Option String
  installedUnitInventory : Option InstalledUnitInventory
deriving DecidableEq, Repr

def AgentRecord.fence (record : AgentRecord) : AgentFence where
  incarnation := record.incarnation
  identity := record.identity
  nodeActionKeyVersion := record.nodeActionKeyVersion
  endpoint := record.endpoint
  tlsCertificatePem := record.tlsCertificatePem
  bootId := record.bootId
  nodeInstanceId := record.nodeInstanceId
  installedUnitInventory := record.installedUnitInventory

private theorem AgentHeartbeat.incarnation_ne_empty (heartbeat : AgentHeartbeat) : heartbeat.incarnation ≠ "" :=
  elseText_ne_empty (elseText_ne_empty heartbeat.endpoint_given)

private theorem elseText_some_elseText (first : Option String) (other : String) :
    elseText (some (elseText first other)) other = elseText first other := by
  cases first with
  | none => exact ite_self other
  | some text =>
    by_cases htext : text = ""
    · simp [elseText, htext]
    · simp [elseText, htext]

section FirstRecord

variable (maxHeartbeatAge : Nat) (heartbeat : AgentHeartbeat) (inventory : Option InstalledUnitInventory)

@[simp] theorem incarnation_firstAgentRecord :
    (firstAgentRecord maxHeartbeatAge heartbeat inventory).incarnation = heartbeat.incarnation := by
  simp only [AgentRecord.incarnation, firstAgentRecord]
  rw [elseText, if_neg heartbeat.incarnation_ne_empty]

@[simp] theorem identity_firstAgentRecord :
    (firstAgentRecord maxHeartbeatAge heartbeat inventory).identity = heartbeat.build.identity := by
  simp only [AgentRecord.identity, AgentBuild.identity, firstAgentRecord, AgentBuild.resolved, elseText_some_elseText]

end FirstRecord

variable {maxHeartbeatAge now : Nat} {heartbeat : AgentHeartbeat} {old row : AgentRecord}
  {request : AgentTransitionRequest} {x : String} {g : Nat}

structure Renewed (heartbeat : AgentHeartbeat) (old row : AgentRecord) : Prop where
  later : old.lastSeenAt ≤ heartbeat.observedAt
  admitted : heartbeat.incarnation ∉ old.retiredIncarnationIds
  incarnation : row.incarnation = heartbeat.incarnation
  incarnationId : row.agentIncarnationId = some heartbeat.incarnation
  retired : row.retiredIncarnationIds = retiredAfter heartbeat old
  firstSeenAt : row.firstSeenAt = old.firstSeenAt
  lastSeenAt : row.lastSeenAt = heartbeat.observedAt
  generation : row.generation = old.generation + 1 ∨ row.generation = old.generation ∧ row.fence = old.fence
  lifecycleState : row.lifecycleState = .active ∨
    row.lifecycleState = .draining ∧ old.lifecycleState = .draining ∧ old.incarnation = heartbeat.incarnation

private theorem renewed_of_nextAgentRecord (h : nextAgentRecord maxHeartbeatAge heartbeat (some old) now = .ok row) :
    Renewed heartbeat old row := by
  unfold nextAgentRecord at h
  simp only at h
  split at h
  · cases h
  rename_i hlater
  split at h
  · cases h
  rename_i hadmitted
  split at h
  · cases h
  cases hinv : resolveInstalledUnitInventory heartbeat.installedUnitReport old.installedUnitInventory with
  | error message =>
    rw [hinv] at h
    cases h
  | ok inventory =>
    rw [hinv] at h
    have hrow := (Except.ok.inj h).symm
    have hinc : row.incarnation = heartbeat.incarnation := by
      rw [hrow]
      exact incarnation_firstAgentRecord maxHeartbeatAge heartbeat inventory
    refine ⟨by omega, hadmitted, hinc, by rw [hrow]; rfl, by rw [hrow], by rw [hrow], by rw [hrow]; rfl, ?_, ?_⟩
    · by_cases hchanged : agentChanged heartbeat old inventory
      · exact .inl (by rw [hrow]; simp [hchanged])
      · refine .inr ⟨by rw [hrow]; simp [hchanged], ?_⟩
        have hid : row.identity = heartbeat.build.identity := by
          rw [hrow]
          exact identity_firstAgentRecord maxHeartbeatAge heartbeat inventory
        simp only [agentChanged, Bool.or_eq_true, bne_iff_ne, not_or, not_not] at hchanged
        obtain ⟨⟨⟨⟨⟨⟨⟨hi, hd⟩, hk⟩, he⟩, ht⟩, hb⟩, hn⟩, hu⟩ := hchanged
        simp only [AgentRecord.fence, hinc, hid, hi, hd, hk, he, ht, hb, hn, hu]
        rw [hrow]
        rfl
    · by_cases hsame : old.incarnation = heartbeat.incarnation ∧ old.lifecycleState = .draining
      · exact .inr ⟨by rw [hrow]; simp [hsame], hsame.2, hsame.1⟩
      · refine .inl ?_
        rw [hrow]
        have hfalse : (old.incarnation == heartbeat.incarnation && old.lifecycleState == .draining) = false := by
          simpa using hsame
        simp only [hfalse, Bool.false_eq_true, if_false]

private theorem registerPass_eq_ok {found : Option AgentRecord} {outcome : Attempted AgentRecord}
    (h : registerPass maxHeartbeatAge heartbeat now found = .ok outcome) :
    ∃ row, nextAgentRecord maxHeartbeatAge heartbeat found now = .ok row ∧ outcome = .swap row := by
  unfold registerPass at h
  split at h
  · cases h
  split at h
  · cases h
  cases hnext : nextAgentRecord maxHeartbeatAge heartbeat found now with
  | error message =>
    rw [hnext] at h
    cases h
  | ok row =>
    rw [hnext] at h
    exact ⟨row, rfl, (Except.ok.inj h).symm⟩

/-- What a pass writes over a record: a renewal by a heartbeat, or one of the three transitions. -/
private theorem agentAttempt_cases {call : AgentCall}
    (h : agentAttempt maxHeartbeatAge call now (some old) = .swap row) :
    (∃ heartbeat, Renewed heartbeat old row) ∨
      (∃ request : AgentTransitionRequest, old.lifecycleState = .active ∧
        row = { old with
          generation := old.generation + 1
          lifecycleState := .draining
          transitionId := some request.transitionId
          transitionReason := some request.reason
          transitionStartedAt := some now }) ∨
      (old.lifecycleState = .draining ∧
        row = { old with
          lifecycleState := .revoked
          retiredIncarnationIds := retiredByRevoke old
          leaseExpiresAt := some now }) ∨
      (old.lifecycleState = .revoked ∧
        row = { old with
          lifecycleState := .active
          retiredIncarnationIds := old.retiredIncarnationIds.filter fun item => some item != old.agentIncarnationId
          leaseExpiresAt := some now
          transitionId := none
          transitionReason := none
          transitionStartedAt := none }) := by
  have hpass := Attempted.settled_eq_swap.mp h
  cases call with
  | register heartbeat received =>
    obtain ⟨record, hnext, hswap⟩ := registerPass_eq_ok hpass
    rw [← Attempted.swap.inj hswap] at hnext
    exact .inl ⟨heartbeat, renewed_of_nextAgentRecord hnext⟩
  | drain request =>
    simp only [agentPass, drainAgent] at hpass
    split at hpass
    · cases hpass
    split at hpass
    · cases hpass
    rename_i hactive
    split at hpass
    · cases hpass
    · have hrow := Attempted.swap.inj (Except.ok.inj hpass)
      exact .inr (.inl ⟨request, not_not.mp hactive, hrow.symm⟩)
  | revoke request =>
    simp only [agentPass, revokeAgent] at hpass
    split at hpass
    · cases hpass
    split at hpass
    · cases hpass
    · rename_i hdraining
      have hrow := Attempted.swap.inj (Except.ok.inj hpass)
      exact .inr (.inr (.inl ⟨not_not.mp fun hne => hdraining (.inl hne), hrow.symm⟩))
  | reactivate request =>
    simp only [agentPass, reactivateAgent] at hpass
    split at hpass
    · cases hpass
    split at hpass
    · cases hpass
    rename_i hrevoked
    split at hpass
    · cases hpass
    · have hrow := Attempted.swap.inj (Except.ok.inj hpass)
      exact .inr (.inr (.inr ⟨not_not.mp hrevoked, hrow.symm⟩))

private theorem agentAttempt_fresh {call : AgentCall} (h : agentAttempt maxHeartbeatAge call now none = .swap row) :
    ∃ heartbeat inventory, row = firstAgentRecord maxHeartbeatAge heartbeat inventory := by
  have hpass := Attempted.settled_eq_swap.mp h
  cases call with
  | register heartbeat received =>
    obtain ⟨record, hnext, hswap⟩ := registerPass_eq_ok hpass
    rw [← Attempted.swap.inj hswap, nextAgentRecord] at hnext
    cases hinv : resolveInstalledUnitInventory heartbeat.installedUnitReport none with
    | error message =>
      rw [hinv] at hnext
      cases hnext
    | ok inventory =>
      rw [hinv] at hnext
      exact ⟨heartbeat, inventory, (Except.ok.inj hnext).symm⟩
  | drain request => cases hpass
  | revoke request => cases hpass
  | reactivate request => cases hpass

private theorem agentAttempt_ne_save (call : AgentCall) (found : Option AgentRecord) (row : AgentRecord) :
    agentAttempt maxHeartbeatAge call now found ≠ .save row := by
  intro h
  have hpass := Attempted.settled_eq_save.mp h
  cases call with
  | register heartbeat received =>
    obtain ⟨record, -, hswap⟩ := registerPass_eq_ok hpass
    cases hswap
  | drain request =>
    cases found with
    | none => cases hpass
    | some current =>
      simp only [agentPass, drainAgent] at hpass
      split at hpass <;> [skip; split at hpass <;> [skip; split at hpass]] <;> cases hpass
  | revoke request =>
    cases found with
    | none => cases hpass
    | some current =>
      simp only [agentPass, revokeAgent] at hpass
      split at hpass <;> [skip; split at hpass] <;> cases hpass
  | reactivate request =>
    cases found with
    | none => cases hpass
    | some current =>
      simp only [agentPass, reactivateAgent] at hpass
      split at hpass <;> [skip; split at hpass <;> [skip; split at hpass]] <;> cases hpass

/-! ### Invariants of a record -/

/-- A record names its incarnation, and that incarnation is retired exactly if the agent is revoked. -/
structure AgentSound (record : AgentRecord) : Prop where
  named : record.agentIncarnationId = some record.incarnation
  given : record.incarnation ≠ ""
  retired : record.incarnation ∈ record.retiredIncarnationIds ↔ record.lifecycleState = .revoked

private theorem mem_lastItems_append_self (l : List String) : x ∈ lastItems retiredWindow (l ++ [x]) :=
  (behind_lastItems (by simp) (by rw [behind_append_self]; decide)).1

private theorem AgentSound.retiredByRevoke (h : AgentSound old) (hlive : old.lifecycleState ≠ .revoked) :
    retiredByRevoke old = lastItems retiredWindow (old.retiredIncarnationIds ++ [old.incarnation]) := by
  have hnot : old.incarnation ∉ old.retiredIncarnationIds := fun hmem => hlive (h.retired.mp hmem)
  rw [GpuFaultRecovery.retiredByRevoke, h.named]
  exact if_pos ⟨h.given, hnot⟩

private theorem agentSound_firstAgentRecord (inventory : Option InstalledUnitInventory) :
    AgentSound (firstAgentRecord maxHeartbeatAge heartbeat inventory) := by
  refine ⟨by rw [incarnation_firstAgentRecord]; rfl, ?_, ?_⟩
  · rw [incarnation_firstAgentRecord]
    exact heartbeat.incarnation_ne_empty
  · simp [firstAgentRecord]

private theorem not_mem_retiredAfter (hold : heartbeat.incarnation ∉ old.retiredIncarnationIds) :
    heartbeat.incarnation ∉ retiredAfter heartbeat old := by
  unfold retiredAfter
  split
  · rename_i hne
    intro hmem
    have hmem := mem_of_mem_lastItems hmem
    simp only [List.mem_append, List.mem_filter, List.mem_singleton] at hmem
    rcases hmem with hmem | hmem
    · exact hold hmem.1
    · exact hne.1 hmem.symm
  · exact hold

private theorem AgentSound.attempt (h : AgentSound old) {call : AgentCall}
    (hout : agentAttempt maxHeartbeatAge call now (some old) = .swap row) : AgentSound row := by
  rcases agentAttempt_cases hout with ⟨heartbeat, hrenew⟩ | ⟨request, hstate, rfl⟩ | ⟨hstate, rfl⟩ | ⟨hstate, rfl⟩
  · refine ⟨by rw [hrenew.incarnationId, hrenew.incarnation], ?_, ?_⟩
    · rw [hrenew.incarnation]
      exact heartbeat.incarnation_ne_empty
    · have hnot : row.incarnation ∉ row.retiredIncarnationIds := by
        rw [hrenew.incarnation, hrenew.retired]
        exact not_mem_retiredAfter hrenew.admitted
      have hstate : row.lifecycleState ≠ .revoked := by
        rcases hrenew.lifecycleState with h | h
        · simp [h]
        · simp [h.1]
      exact iff_of_false hnot hstate
  · refine ⟨h.named, h.given, iff_of_false (fun hmem => ?_) (by simp)⟩
    have := h.retired.mp hmem
    simp [hstate] at this
  · refine ⟨h.named, h.given, iff_of_true ?_ rfl⟩
    have hwindow := h.retiredByRevoke (by simp [hstate])
    change old.incarnation ∈ GpuFaultRecovery.retiredByRevoke old
    rw [hwindow]
    exact mem_lastItems_append_self _
  · refine ⟨h.named, h.given, iff_of_false (fun hmem => ?_) (by simp)⟩
    have hkept : (some old.incarnation != old.agentIncarnationId) = true := (List.mem_filter.mp hmem).2
    rw [h.named] at hkept
    exact absurd rfl (bne_iff_ne.mp hkept)

private theorem keeps_agentSound : KeptBy (agentAttempt maxHeartbeatAge) AgentSound where
  fresh call now row h := by
    obtain ⟨heartbeat, inventory, rfl⟩ := agentAttempt_fresh h
    exact agentSound_firstAgentRecord inventory
  swapped call now old row hold h := hold.attempt h
  saved call now found row h := absurd h (agentAttempt_ne_save call found row)

/-! ### Generations -/

/-- How a record moves on: its times and its generation never fall, and one generation is one process. -/
structure AgentAdvance (old row : AgentRecord) : Prop where
  firstSeenAt : row.firstSeenAt = old.firstSeenAt
  lastSeenAt : old.lastSeenAt ≤ row.lastSeenAt
  generation : old.generation ≤ row.generation
  fence : row.generation = old.generation → row.fence = old.fence

private theorem AgentAdvance.refl (record : AgentRecord) : AgentAdvance record record :=
  ⟨rfl, le_rfl, le_rfl, fun _ => rfl⟩

private theorem AgentAdvance.trans {a b c : AgentRecord} (hab : AgentAdvance a b) (hbc : AgentAdvance b c) :
    AgentAdvance a c where
  firstSeenAt := hbc.firstSeenAt.trans hab.firstSeenAt
  lastSeenAt := hab.lastSeenAt.trans hbc.lastSeenAt
  generation := hab.generation.trans hbc.generation
  fence h := by
    have hle := hab.generation
    have hle' := hbc.generation
    exact (hbc.fence (by omega)).trans (hab.fence (by omega))

private theorem agentAdvance_of_attempt {call : AgentCall}
    (hout : agentAttempt maxHeartbeatAge call now (some old) = .swap row) : AgentAdvance old row := by
  rcases agentAttempt_cases hout with ⟨heartbeat, hrenew⟩ | ⟨request, -, rfl⟩ | ⟨-, rfl⟩ | ⟨-, rfl⟩
  · refine ⟨hrenew.firstSeenAt, by rw [hrenew.lastSeenAt]; exact hrenew.later, ?_, fun h => ?_⟩
    · rcases hrenew.generation with h | h <;> omega
    · rcases hrenew.generation with h' | h'
      · omega
      · exact h'.2
  · exact ⟨rfl, le_rfl, Nat.le_succ _, fun h => absurd h (Nat.succ_ne_self _)⟩
  · exact ⟨rfl, le_rfl, le_rfl, fun _ => rfl⟩
  · exact ⟨rfl, le_rfl, le_rfl, fun _ => rfl⟩

/-! ### Incarnations that were replaced -/

/-- One more for an agent on its way out: revoking it retires its incarnation within the generation of the drain. -/
def drainMark (record : AgentRecord) : Nat := if record.lifecycleState = .draining then 1 else 0

/-- The incarnation `x` is shut out, since the generation was `g` and until it has risen by the window: no more
incarnations were retired after it than generations have passed. -/
def ShutOut (x : String) (g : Nat) (record : AgentRecord) : Prop :=
  g + retiredWindow ≤ record.generation ∨
    record.incarnation ≠ x ∧ x ∈ record.retiredIncarnationIds ∧
      behind x record.retiredIncarnationIds + drainMark record + g ≤ record.generation

private theorem ShutOut.of_cut {l : List String} (hx : x ∈ l) (hne : row.incarnation ≠ x)
    (hretired : row.retiredIncarnationIds = lastItems retiredWindow l)
    (hle : behind x l + drainMark row + g ≤ row.generation) : ShutOut x g row := by
  by_cases hcut : behind x l < retiredWindow
  · obtain ⟨hmem, hbehind⟩ := behind_lastItems hx hcut
    refine .inr ⟨hne, ?_, ?_⟩
    · rwa [hretired]
    · rw [hretired, hbehind]
      exact hle
  · exact .inl (by omega)

private theorem Renewed.takeover (h : Renewed heartbeat old row) (hne : old.incarnation ≠ heartbeat.incarnation) :
    row.generation = old.generation + 1 ∧ drainMark row = 0 := by
  constructor
  · rcases h.generation with hgen | ⟨-, hfence⟩
    · exact hgen
    · have hinc : row.incarnation = old.incarnation := congrArg AgentFence.incarnation hfence
      exact absurd (hinc.symm.trans h.incarnation) hne
  · rcases h.lifecycleState with hstate | ⟨-, -, hsame⟩
    · simp [drainMark, hstate]
    · exact absurd hsame hne

private theorem Renewed.shutOut_old (h : Renewed heartbeat old row) (hsound : AgentSound old)
    (hne : old.incarnation ≠ heartbeat.incarnation) (hg : g ≤ old.generation) :
    ShutOut old.incarnation (g + 1) row := by
  obtain ⟨hgen, hmark⟩ := h.takeover hne
  have hretired := h.retired
  rw [retiredAfter, if_pos ⟨hne, hsound.given⟩] at hretired
  refine ShutOut.of_cut (by simp) (by rw [h.incarnation]; exact hne.symm) hretired ?_
  rw [behind_append_self, hgen, hmark]
  omega

/-- A heartbeat does not let in what is shut out. -/
private theorem Renewed.shutOut (h : Renewed heartbeat old row) (hout : ShutOut x g old) : ShutOut x g row := by
  have hmono : old.generation ≤ row.generation := by
    rcases h.generation with hgen | hgen <;> omega
  rcases hout with hpast | ⟨-, hmem, hle⟩
  · exact .inl (hpast.trans hmono)
  have hx : row.incarnation ≠ x := by
    rw [h.incarnation]
    exact fun he => h.admitted (he ▸ hmem)
  -- a takeover retires one more incarnation and raises the generation by one, so that `x` falls behind no faster
  by_cases htaken : old.incarnation ≠ heartbeat.incarnation ∧ old.incarnation ≠ ""
  · obtain ⟨hgen, hmark⟩ := h.takeover htaken.1
    have hretired := h.retired
    rw [retiredAfter, if_pos htaken] at hretired
    by_cases hxold : x = old.incarnation
    · subst hxold
      refine ShutOut.of_cut (by simp) hx hretired ?_
      rw [behind_append_self, hmark]
      omega
    · have hkept : (x != old.incarnation) = true := bne_iff_ne.mpr hxold
      refine ShutOut.of_cut (by simp [hmem, hxold]) hx hretired ?_
      have hfilter := behind_filter_le (l := old.retiredIncarnationIds) (fun item => item != old.incarnation) hkept
      rw [behind_append_ne hxold, hmark]
      omega
  · have hretired := h.retired
    rw [retiredAfter, if_neg htaken] at hretired
    refine .inr ⟨hx, by rwa [hretired], ?_⟩
    have hmark : drainMark row ≤ drainMark old := by
      rcases h.lifecycleState with hstate | ⟨hstate, hold, -⟩
      · simp [drainMark, hstate]
      · simp [drainMark, hstate, hold]
    rw [hretired]
    omega

private theorem ShutOut.attempt (hout : ShutOut x g old) (hsound : AgentSound old) {call : AgentCall}
    (h : agentAttempt maxHeartbeatAge call now (some old) = .swap row) : ShutOut x g row := by
  rcases agentAttempt_cases h with ⟨heartbeat, hrenew⟩ | ⟨request, hstate, rfl⟩ | ⟨hstate, rfl⟩ | ⟨hstate, rfl⟩
  · exact hrenew.shutOut hout
  · rcases hout with hpast | ⟨hne, hmem, hle⟩
    · exact .inl (hpast.trans (Nat.le_succ _))
    · refine .inr ⟨hne, hmem, ?_⟩
      simp only [drainMark, hstate, reduceCtorEq, if_false, if_true] at hle ⊢
      omega
  · rcases hout with hpast | ⟨hne, hmem, hle⟩
    · exact .inl hpast
    · -- the mark of the drain pays for the incarnation that the revocation retires
      refine ShutOut.of_cut (List.mem_append_left _ hmem) hne (hsound.retiredByRevoke (by simp [hstate])) ?_
      rw [behind_append_ne hne.symm]
      simp only [drainMark, hstate, reduceCtorEq, if_false, if_true] at hle ⊢
      omega
  · rcases hout with hpast | ⟨hne, hmem, hle⟩
    · exact .inl hpast
    · have hkept : (some x != old.agentIncarnationId) = true := by
        rw [hsound.named]
        exact bne_iff_ne.mpr fun he => hne (Option.some.inj he).symm
      refine .inr ⟨hne, List.mem_filter.mpr ⟨hmem, hkept⟩, ?_⟩
      have hfilter :=
        behind_filter_le (l := old.retiredIncarnationIds) (fun item => some item != old.agentIncarnationId) hkept
      simp only [drainMark, hstate, reduceCtorEq, if_false] at hle ⊢
      omega

/-- The incarnation `x` has held the node since generation `g`, or was replaced and is shut out. -/
def HeldOrShutOut (x : String) (g : Nat) (record : AgentRecord) : Prop :=
  record.incarnation = x ∧ g ≤ record.generation ∨ ShutOut x (g + 1) record

private theorem HeldOrShutOut.attempt (hheld : HeldOrShutOut x g old) (hsound : AgentSound old) {call : AgentCall}
    (h : agentAttempt maxHeartbeatAge call now (some old) = .swap row) : HeldOrShutOut x g row := by
  rcases hheld with ⟨rfl, hg⟩ | hout
  · by_cases hinc : row.incarnation = old.incarnation
    · exact .inl ⟨hinc, hg.trans (agentAdvance_of_attempt h).generation⟩
    · refine .inr ?_
      rcases agentAttempt_cases h with ⟨heartbeat, hrenew⟩ | ⟨request, -, rfl⟩ | ⟨-, rfl⟩ | ⟨-, rfl⟩
      · refine hrenew.shutOut_old hsound (fun he => hinc ?_) hg
        rw [hrenew.incarnation, he]
      · exact absurd rfl hinc
      · exact absurd rfl hinc
      · exact absurd rfl hinc
  · exact .inr (hout.attempt hsound h)

/-! ### Runs -/

section Runs

variable {l l₁ l₂ : List AgentInput} {k : String × String} {mid last : AgentRecord}

private theorem agents_sound (maxHeartbeatAge : Nat) (l : List AgentInput) :
    AllComputed (agentAttempt maxHeartbeatAge) (Run.exec (registryStep maxHeartbeatAge) {} l) ∧
      AllRows AgentSound (Run.exec (registryStep maxHeartbeatAge) {} l) :=
  rows_invariant keeps_agentSound allComputed_empty allRows_empty l

private theorem agents_related {R : AgentRecord → AgentRecord → Prop} (hrefl : ∀ a, R a a)
    (htrans : ∀ a b c, R a b → R b c → R a c)
    (hrel : Relates (agentAttempt maxHeartbeatAge) AgentRecord.place AgentSound R)
    (hold : (Run.exec (registryStep maxHeartbeatAge) {} l).table.get? k = some old)
    (hkept : ∀ i ∈ l₁, i ≠ .remove k) :
    ∃ row, (Run.exec (registryStep maxHeartbeatAge) {} (l ++ l₁)).table.get? k = some row ∧ R old row := by
  obtain ⟨hcomputed, hsound⟩ := agents_sound maxHeartbeatAge l
  have halong := along_leavesAlone (fun call now found row => agentAttempt_ne_save call found row) hcomputed hkept
  rw [Run.exec_append]
  exact row_related hrefl htrans keeps_agentSound hrel hcomputed hsound hold halong

/-- The record of a node moves forward along every interleaving of the registry's calls. -/
theorem agent_record_advances (maxHeartbeatAge : Nat) (l l₁ : List AgentInput) (k : String × String)
    (hold : (Run.exec (registryStep maxHeartbeatAge) {} l).table.get? k = some old)
    (hkept : ∀ i ∈ l₁, i ≠ .remove k) :
    ∃ row, (Run.exec (registryStep maxHeartbeatAge) {} (l ++ l₁)).table.get? k = some row ∧
      AgentAdvance old row ∧ AgentSound row := by
  obtain ⟨row, hrow, hadvance⟩ := agents_related AgentAdvance.refl (fun _ _ _ => AgentAdvance.trans)
    (fun call now old row _ _ hout => agentAdvance_of_attempt hout) hold hkept
  exact ⟨row, hrow, hadvance, (agents_sound maxHeartbeatAge (l ++ l₁)).2 k row hrow⟩

/-- An incarnation that another has replaced is not on record again before the generation has risen past the
window. -/
theorem replaced_incarnation_shut_out (maxHeartbeatAge : Nat) (l l₁ l₂ : List AgentInput) (k : String × String)
    (hold : (Run.exec (registryStep maxHeartbeatAge) {} l).table.get? k = some old)
    (hmid : (Run.exec (registryStep maxHeartbeatAge) {} (l ++ l₁)).table.get? k = some mid)
    (hlast : (Run.exec (registryStep maxHeartbeatAge) {} (l ++ l₁ ++ l₂)).table.get? k = some last)
    (hreplaced : mid.incarnation ≠ old.incarnation) (hkept : ∀ i ∈ l₁ ++ l₂, i ≠ .remove k) :
    last.incarnation ≠ old.incarnation ∨ old.generation + retiredWindow < last.generation := by
  have hrel : ∀ J : AgentRecord → Prop,
      (∀ a b call now, AgentSound a → J a → agentAttempt maxHeartbeatAge call now (some a) = .swap b → J b) →
      Relates (agentAttempt maxHeartbeatAge) AgentRecord.place AgentSound fun a b => J a → J b :=
    fun J hJ call now a b hsound _ hout ha => hJ a b call now hsound ha hout
  -- up to the middle, the old incarnation holds the node or is shut out
  obtain ⟨row, hrow, hheld⟩ := agents_related (fun _ h => h) (fun _ _ _ h h' ha => h' (h ha))
    (hrel (HeldOrShutOut old.incarnation old.generation) fun a b call now hsound ha hout => ha.attempt hsound hout)
    hold fun i hi => hkept i (List.mem_append_left _ hi)
  have hmidRow : row = mid := Option.some.inj (hrow.symm.trans hmid)
  have hout : ShutOut old.incarnation (old.generation + 1) mid := by
    rcases hheld (.inl ⟨rfl, le_rfl⟩) with h | h
    · rw [hmidRow] at h
      exact absurd h.1 hreplaced
    · rwa [hmidRow] at h
  -- from there on it stays shut out
  obtain ⟨row', hrow', hkeep⟩ := agents_related (fun _ h => h) (fun _ _ _ h h' ha => h' (h ha))
    (hrel (ShutOut old.incarnation (old.generation + 1)) fun a b call now hsound ha hout => ha.attempt hsound hout)
    hmid fun i hi => hkept i (List.mem_append_right _ hi)
  have hlastRow : row' = last := Option.some.inj (hrow'.symm.trans hlast)
  have hfinal := hkeep hout
  rw [hlastRow] at hfinal
  rcases hfinal with h | h
  · exact .inr (by omega)
  · exact .inl h.1

end Runs

/-! ### Three agents of one node -/

private def sampleBuild : AgentBuild where
  agentVersion := "1.0"
  artifactSha256 := "aa"
  policyVersion := "p1"
  runtimeProfileVersion := "r1"
  configDigest := "cc"

private def sampleHeartbeat (incarnation : String) (observedAt : Nat) : AgentHeartbeat where
  clusterId := "c1"
  nodeId := "n1"
  endpoint := "https://n1:9000"
  endpoint_given := by decide
  build := sampleBuild
  agentIncarnationId := some incarnation
  observedAt := observedAt

private def called (call : AgentCall) (now : Nat) : List AgentInput :=
  [.start 0 ("c1", "n1") call 5, .read 0 now, .write 0]

private def heard (heartbeat : AgentHeartbeat) : List AgentInput :=
  called (.register heartbeat heartbeat.observedAt) heartbeat.observedAt

private def onRecord (l : List AgentInput) : Option AgentRecord :=
  (Run.exec (registryStep 10) {} l).table.get? ("c1", "n1")

private def firstSample : AgentRecord := firstAgentRecord 10 (sampleHeartbeat "a" 0) none

private def secondSample : AgentRecord :=
  { firstAgentRecord 10 (sampleHeartbeat "b" 20) none with
    retiredIncarnationIds := ["a"]
    firstSeenAt := 0
    generation := 2 }

theorem agent_record_advances_takeover :
    ∃ row, onRecord (heard (sampleHeartbeat "a" 0) ++ heard (sampleHeartbeat "b" 20)) = some row ∧
      AgentAdvance firstSample row ∧ AgentSound row :=
  agent_record_advances 10 (heard (sampleHeartbeat "a" 0)) (heard (sampleHeartbeat "b" 20)) ("c1", "n1") (by rfl)
    (by simp [heard, called])

private def removal : AgentTransitionRequest where
  expectedGeneration := 2
  transitionId := "t1"
  reason := "node leaves"

/-- The first agent is refused, the second is drained and revoked, a third takes over, and the first is refused
again. -/
private def afterTakeover : List AgentInput :=
  heard (sampleHeartbeat "a" 40) ++ called (.drain removal) 41 ++ called (.revoke removal) 42 ++
    heard (sampleHeartbeat "c" 50) ++ heard (sampleHeartbeat "a" 70)

private def thirdSample : AgentRecord :=
  { firstAgentRecord 10 (sampleHeartbeat "c" 50) none with
    retiredIncarnationIds := ["a", "b"]
    firstSeenAt := 0
    generation := 4 }

theorem replaced_incarnation_shut_out_takeover :
    onRecord (heard (sampleHeartbeat "a" 0) ++ heard (sampleHeartbeat "b" 20) ++ afterTakeover) = some thirdSample ∧
      (thirdSample.incarnation ≠ firstSample.incarnation ∨
        firstSample.generation + retiredWindow < thirdSample.generation) := by
  have hlast : onRecord (heard (sampleHeartbeat "a" 0) ++ heard (sampleHeartbeat "b" 20) ++ afterTakeover) =
      some thirdSample := by decide +kernel
  have hmid : onRecord (heard (sampleHeartbeat "a" 0) ++ heard (sampleHeartbeat "b" 20)) = some secondSample := by rfl
  exact ⟨hlast, replaced_incarnation_shut_out 10 (heard (sampleHeartbeat "a" 0)) (heard (sampleHeartbeat "b" 20))
    afterTakeover ("c1", "n1") (by rfl) hmid hlast (by decide) (by simp [heard, called, afterTakeover])⟩

end GpuFaultRecovery
