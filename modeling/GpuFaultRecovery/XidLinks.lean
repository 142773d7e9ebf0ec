import GpuFaultRecovery.Chain
import GpuFaultRecovery.SharedReset

/-!
# Links between the decisions of a node

Every event of a node is evaluated with its windows closed against all events of the node. An event then names at most
one other, and finalization follows the name. The chain of names ends, unless it reaches an XID 48 and an XID 64 that
name each other, or an XID 45 and an XID 154 that do.
-/

namespace GpuFaultRecovery

namespace Policy

open Chain

section Links

variable (policy : PinnedPolicy) (events : List XidEvent)

/-- The link of an event that is evaluated against all events, with its windows closed. -/
def linkOf (event : XidEvent) : Option String :=
  (policy.resolve event { companionEvents := events }).correlatedEventId

def named (event : XidEvent) : Option XidEvent :=
  (linkOf policy events event).bind fun id => events.find? fun item => item.eventId == id

variable {policy events} {event other : XidEvent}

private theorem reportTwins_gauge (h : reportTwins event other = true) (hgauge : isXidGauge event = true) :
    isXidGauge other = false ∧ other.xid = event.xid := by
  obtain ⟨_, _, hxid, ⟨hline, _⟩ | ⟨_, hline⟩⟩ := reportTwins_spec h
  · exact absurd hline (not_kernelLine_of_gauge hgauge)
  · refine ⟨?_, hxid.symm⟩
    cases hother : isXidGauge other with
    | false => rfl
    | true => exact absurd hline (not_kernelLine_of_gauge hother)

/-- What one link leads to: from a change to its line, or from an event to what its own rule looks for. -/
private theorem named_cases (hids : (events.map XidEvent.eventId).Nodup)
    (h : named policy events event = some other) :
    other ∈ events ∧
      ((isXidGauge event = true ∧ isXidGauge other = false ∧ other.xid = event.xid) ∨
        (event.xid = 64 ∧ other.xid = 48) ∨ (event.xid = 48 ∧ (other.xid = 63 ∨ other.xid = 64)) ∨
        (event.xid = 45 ∧ other.xid ≠ 45) ∨ (event.xid = 154 ∧ other.xid ≠ 154)) := by
  obtain ⟨id, hlink, hfind⟩ := Option.bind_eq_some_iff.1 h
  have hmem := List.mem_of_find?_eq_some hfind
  have hid : other.eventId = id := by simpa using List.find?_some hfind
  have hsame : ∀ item ∈ events, item.eventId = id → item = other := by
    intro item hitem heq
    exact List.inj_on_of_nodup_map hids hitem hmem (heq.trans hid.symm)
  refine ⟨hmem, ?_⟩
  unfold linkOf at hlink
  rcases policy.resolve_cases event { companionEvents := events } with
    ⟨twin, htwin, hresolve⟩ | ⟨_, waiting, hwait, _⟩ | ⟨_, _, hresolve⟩
  · obtain ⟨hgauge, htwinMem, hreports⟩ := followedTwin_spec htwin
    rw [hresolve] at hlink
    obtain rfl := hsame twin htwinMem (Option.some.inj hlink)
    exact .inl ⟨hgauge, reportTwins_gauge hreports hgauge⟩
  · unfold waitsForLine at hwait
    simp at hwait
  · rw [hresolve] at hlink
    obtain ⟨item, xids, hrelated, hitem, hcases⟩ := policy.resolveOwn_link hlink
    obtain rfl := hsame item (List.mem_filter.1 hrelated).1 hitem
    exact .inr hcases

/-! ### Loops -/

variable (hids : (events.map XidEvent.eventId).Nodup)

include hids

private theorem named_of_line (hline : isXidGauge event = false) (h : named policy events event = some other) :
    (event.xid = 64 ∧ other.xid = 48) ∨ (event.xid = 48 ∧ (other.xid = 63 ∨ other.xid = 64)) ∨
      (event.xid = 45 ∧ other.xid ≠ 45) ∨ (event.xid = 154 ∧ other.xid ≠ 154) := by
  rcases (named_cases hids h).2 with ⟨hgauge, _⟩ | hown
  · rw [hline] at hgauge
    cases hgauge
  · exact hown

private theorem OnLoop.exists_other_xid (h : OnLoop (named policy events) event) :
    (event.xid = 45 ∨ event.xid = 48 ∨ event.xid = 64 ∨ event.xid = 154) ∧
      ∃ n f, follow (named policy events) n event = some f ∧ f.xid ≠ event.xid := by
  obtain ⟨next, hnext, hloop⟩ := h.exists_next
  have hone : follow (named policy events) 1 event = some next := by
    rw [follow, hnext]
    rfl
  rcases (named_cases hids hnext).2 with ⟨_, hline, hxid⟩ | hown
  · obtain ⟨last, hlast, _⟩ := hloop.exists_next
    have htwo : follow (named policy events) 2 event = some last := by
      rw [follow_succ_of hone, hlast]
    have hleaves := named_of_line hids hline hlast
    rw [← hxid]
    exact ⟨by omega, 2, last, htwo, by omega⟩
  · exact ⟨by omega, 1, next, hone, by omega⟩

/-- The loops of two XIDs: every event of the loop is of one of them, and both occur. -/
def LoopOf (policy : PinnedPolicy) (events : List XidEvent) (x y : Nat) (event : XidEvent) : Prop :=
  (∀ n f, follow (named policy events) n event = some f → f.xid = x ∨ f.xid = y) ∧
    (∃ n f, follow (named policy events) n event = some f ∧ f.xid = x) ∧
    ∃ n f, follow (named policy events) n event = some f ∧ f.xid = y

private theorem loopOf_of_forall {x y : Nat} (h : OnLoop (named policy events) event)
    (hall : ∀ n f, follow (named policy events) n event = some f → f.xid = x ∨ f.xid = y) :
    LoopOf policy events x y event := by
  obtain ⟨_, n, f, hf, hne⟩ := OnLoop.exists_other_xid hids h
  have hself : follow (named policy events) 0 event = some event := rfl
  rcases hall 0 event hself with hx | hy
  · refine ⟨hall, ⟨0, event, hself, hx⟩, n, f, hf, ?_⟩
    exact (hall n f hf).resolve_left fun hfx => hne (hfx.trans hx.symm)
  · refine ⟨hall, ⟨n, f, hf, ?_⟩, 0, event, hself, hy⟩
    exact (hall n f hf).resolve_right fun hfy => hne (hfy.trans hy.symm)

private theorem loop_keeps_48_64 (h : OnLoop (named policy events) event)
    (hxid : event.xid = 48 ∨ event.xid = 64) {n : Nat}
    {f : XidEvent} (hf : follow (named policy events) n event = some f) : f.xid = 48 ∨ f.xid = 64 := by
  have hkept : OnLoop (named policy events) f ∧ (f.xid = 48 ∨ f.xid = 64) := by
    refine follow_induction (P := fun e => OnLoop (named policy events) e ∧ (e.xid = 48 ∨ e.xid = 64)) ?_ ⟨h, hxid⟩ hf
    rintro a b ⟨ha, hxa⟩ hab
    have hb : OnLoop (named policy events) b := by
      refine ha.of_follow (n := 1) ?_
      rw [follow, hab]
      rfl
    have hbxid := (OnLoop.exists_other_xid hids hb).1
    refine ⟨hb, ?_⟩
    rcases (named_cases hids hab).2 with ⟨_, _, hsame⟩ | hown
    · rw [hsame]
      exact hxa
    · omega
  exact hkept.2

private theorem loop_of_pair (h : OnLoop (named policy events) event) :
    LoopOf policy events 48 64 event ∨ LoopOf policy events 45 154 event := by
  by_cases hxid : event.xid = 48 ∨ event.xid = 64
  · exact .inl (loopOf_of_forall hids h fun n f hf => loop_keeps_48_64 hids h hxid hf)
  · refine .inr (loopOf_of_forall hids h fun n f hf => ?_)
    have hf48 : ¬ (f.xid = 48 ∨ f.xid = 64) := by
      intro hfxid
      obtain ⟨m, hback⟩ := h.exists_back hf
      exact hxid (loop_keeps_48_64 hids (h.of_follow hf) hfxid hback)
    have hfxid := (OnLoop.exists_other_xid hids (h.of_follow hf)).1
    omega

private theorem mem_of_follow (hmem : event ∈ events) {n : Nat} {f : XidEvent}
    (hf : follow (named policy events) n event = some f) : f ∈ events :=
  follow_induction (P := fun e => e ∈ events) (fun _ _ _ hab => (named_cases hids hab).1) hmem hf

private theorem ends_or_loops (hmem : event ∈ events) :
    (∃ n ≤ events.length, follow (named policy events) n event = none) ∨
      ∃ n f, follow (named policy events) n event = some f ∧ OnLoop (named policy events) f := by
  by_cases hends : ∃ n ≤ events.length, follow (named policy events) n event = none
  · exact .inl hends
  · right
    obtain ⟨i, j, f, hlt, _, hi, hj⟩ := @exists_repeat _ (named policy events) event events (by
      intro k hk
      cases hfollow : follow (named policy events) k event with
      | none => exact absurd ⟨k, hk, hfollow⟩ hends
      | some f => exact ⟨f, mem_of_follow hids hmem hfollow, rfl⟩)
    exact ⟨i, f, hi, onLoop_of_repeat hlt hi hj⟩

end Links

/-! ### Finalization -/

section Finalize

variable {policy : PinnedPolicy} {events : List XidEvent} {store : XidStore} {orchestrator : Orchestrator}

def Evaluated (policy : PinnedPolicy) (events : List XidEvent) (store : XidStore) : Prop :=
  ∀ event ∈ events, store.event event.eventId = some event ∧
    ∃ decision, store.decision event.eventId = some decision ∧
    decision.correlatedEventId = linkOf policy events event

/-- An event that finalization recurses into: it has no incident, and a decision that does not wait. -/
def Unfinalized (store : XidStore) (event : XidEvent) : Prop :=
  store.incidentOf event.eventId = none ∧ ∃ decision, store.decision event.eventId = some decision ∧
    decision.pending = false

/-- The fence leaves the link of a decision. -/
theorem FenceAnswer.apply_link (answer : FenceAnswer) (decision : XidDecision) :
    (answer.apply decision).correlatedEventId = decision.correlatedEventId := by
  cases answer <;> rfl

private theorem joinGaugeTwin_link (store : XidStore) (event : XidEvent) (decision : XidDecision) :
    (joinGaugeTwin store event decision).correlatedEventId = decision.correlatedEventId ∨
      ∃ twin : XidEvent, (joinGaugeTwin store event decision).correlatedEventId = some twin.eventId ∧
        (store.incidentOf twin.eventId).isSome = true := by
  unfold joinGaugeTwin
  cases hjoin : joinableTwin store event decision with
  | none => exact .inl rfl
  | some twin =>
    refine .inr ⟨twin, rfl, ?_⟩
    obtain ⟨_, _, _, _, stored, hstored, _, hincident⟩ := joinableTwin_spec hjoin
    refine store.linked _ _ hstored ?_
    cases hnone : stored.incidentId with
    | none =>
      rw [hnone] at hincident
      cases hincident
    | some => rfl

private theorem joinedDecision_link (orchestrator : Orchestrator) (store : XidStore) (event : XidEvent)
    (decision : XidDecision) :
    (joinedDecision orchestrator store event decision).correlatedEventId = decision.correlatedEventId ∨
      ∃ twin : XidEvent, (joinedDecision orchestrator store event decision).correlatedEventId = some twin.eventId ∧
        (store.incidentOf twin.eventId).isSome = true := by
  unfold joinedDecision
  dsimp only
  split
  · exact .inl (FenceAnswer.apply_link _ decision)
  · rw [← FenceAnswer.apply_link (orchestrator.fence event decision) decision]
    exact joinGaugeTwin_link store event _

private theorem linkOf_named {event : XidEvent} {id : String} (h : linkOf policy events event = some id) :
    ∃ item, named policy events event = some item ∧ item.eventId = id := by
  have hexists : ∃ item ∈ events, item.eventId = id := by
    unfold linkOf at h
    rcases policy.resolve_cases event { companionEvents := events } with
      ⟨twin, htwin, hresolve⟩ | ⟨_, waiting, hwait, _⟩ | ⟨_, _, hresolve⟩
    · rw [hresolve] at h
      exact ⟨twin, (followedTwin_spec htwin).2.1, Option.some.inj h⟩
    · simp [waitsForLine] at hwait
    · rw [hresolve] at h
      obtain ⟨item, xids, hrelated, hitem, _⟩ := policy.resolveOwn_link h
      exact ⟨item, (List.mem_filter.1 hrelated).1, hitem⟩
  unfold named
  rw [h, Option.bind_some]
  cases hfind : events.find? fun item => item.eventId == id with
  | none =>
    obtain ⟨item, hmem, hid⟩ := hexists
    have hnot := List.find?_eq_none.1 hfind item hmem
    exact absurd (beq_iff_eq.2 hid) hnot
  | some item => exact ⟨item, rfl, by simpa using List.find?_some hfind⟩

/-- A companion that has an incident, or that is stored and waits, is not finalized first. -/
theorem companionFirst_eq_self {finalize : XidStore → XidEvent → XidDecision → Option (XidDecision × XidStore)}
    {link : Option String} (h : ∀ id, link = some id → (store.incidentOf id).isSome = true ∨
      ((store.event id).isSome = true ∧ ∀ d, store.decision id = some d → d.pending = true)) :
    companionFirst finalize store link = some store := by
  unfold companionFirst
  split
  · rfl
  case h_2 id hid =>
    rcases h id (eq_some_of_present hid) with hincident | ⟨hstored, hwaits⟩
    · rw [if_pos hincident]
    · split
      · rfl
      · obtain ⟨companion, hcompanion⟩ := Option.isSome_iff_exists.1 hstored
        rw [hcompanion, Option.bind_some]
        cases hdecision : store.decision id with
        | none => rfl
        | some d =>
          dsimp only
          rw [if_pos (hwaits d hdecision)]

/-- Finalization of an event comes to an end within as many nested calls as it takes the chain of links to end, or to
reach an event that has an incident or waits. -/
private theorem finalizeXid_isSome (hevaluated : Evaluated policy events store)
    (hids : (events.map XidEvent.eventId).Nodup) (fuel : Nat) :
    ∀ (event : XidEvent) (decision : XidDecision), event ∈ events →
      decision.correlatedEventId = linkOf policy events event →
      (∃ n < fuel, ∀ f, follow (named policy events) (n + 1) event = some f → ¬ Unfinalized store f) →
      (finalizeXid orchestrator fuel store event decision).isSome = true := by
  induction fuel with
  | zero =>
    rintro event decision _ _ ⟨n, hn, _⟩
    exact absurd hn (Nat.not_lt_zero n)
  | succ fuel ih =>
    rintro event decision hmem hlink ⟨n, hn, hstops⟩
    unfold finalizeXid
    dsimp only
    rw [Option.isSome_map]
    have hpassed : ∀ id, (store.incidentOf id).isSome = true →
        (companionFirst (finalizeXid orchestrator fuel) store (some id)).isSome = true := by
      intro id hincident
      rw [companionFirst_eq_self fun other hother => .inl (Option.some.inj hother ▸ hincident)]
      rfl
    rcases joinedDecision_link orchestrator store event decision with hsame | ⟨twin, hjoined, hincident⟩
    swap
    · rw [hjoined]
      exact hpassed twin.eventId hincident
    rw [hsame, hlink]
    cases hnamed : linkOf policy events event with
    | none => rfl
    | some id =>
      by_cases hincident : (store.incidentOf id).isSome = true
      · exact hpassed id hincident
      obtain ⟨companion, hcompanion, rfl⟩ := linkOf_named hnamed
      obtain ⟨hstored, stored, hdecision, hstoredLink⟩ := hevaluated companion (named_cases hids hcompanion).1
      unfold companionFirst
      split
      · rfl
      case h_2 other hother =>
        obtain rfl : companion.eventId = other := Option.some.inj (eq_some_of_present hother)
        rw [if_neg hincident, hstored, Option.bind_some, hdecision]
        dsimp only
        split
        · rfl
        case isFalse hsettled =>
          rw [Option.isSome_map]
          have hone : follow (named policy events) 1 event = some companion := by
            rw [follow, hcompanion]
            rfl
          have hopen : Unfinalized store companion :=
            ⟨by simpa using hincident, stored, hdecision, by simpa using hsettled⟩
          -- the chain does not stop at the companion, so the recursion has a shorter way to go
          cases n with
          | zero => exact absurd hopen (hstops companion hone)
          | succ n =>
            refine ih companion stored (named_cases hids hcompanion).1 hstoredLink ⟨n, by omega, fun f hf => ?_⟩
            refine hstops f ?_
            rw [show n + 1 + 1 = 1 + (n + 1) by omega, follow_add_of hone]
            exact hf

private theorem follow_mod {next : XidEvent → Option XidEvent} {b : XidEvent} {p : Nat} (h : follow next p b = some b)
    (m : Nat) :
    follow next m b = follow next (m % p) b := by
  have hturns := OnLoop.follow_mul h (m / p)
  have hsplit : m / p * p + m % p = m := Nat.div_add_mod' m p
  calc follow next m b = follow next (m / p * p + m % p) b := by rw [hsplit]
    _ = follow next (m % p) b := follow_add_of hturns

/-- Finalization comes to an end within as many nested calls as there are events, or the links of the event run into a
loop none of whose events has an incident. -/
private theorem finalizes_or_loops (hevaluated : Evaluated policy events store)
    (hids : (events.map XidEvent.eventId).Nodup) {event : XidEvent} {decision : XidDecision} (hmem : event ∈ events)
    (hlink : decision.correlatedEventId = linkOf policy events event) :
    (finalizeXid orchestrator (events.length + 1) store event decision).isSome = true ∨
      ∃ n f, follow (named policy events) n event = some f ∧ OnLoop (named policy events) f ∧
        ∀ m g, follow (named policy events) m f = some g → Unfinalized store g := by
  by_cases hstops : ∃ n < events.length + 1, ∀ f, follow (named policy events) (n + 1) event = some f →
      ¬ Unfinalized store f
  · exact .inl (finalizeXid_isSome hevaluated hids _ event decision hmem hlink hstops)
  · right
    have hopen : ∀ n < events.length + 1, ∃ f, follow (named policy events) (n + 1) event = some f ∧
        Unfinalized store f := by
      intro n hn
      by_contra hnone
      refine hstops ⟨n, hn, fun f hf hunfinalized => hnone ⟨f, hf, hunfinalized⟩⟩
    obtain ⟨i, j, b, hlt, hle, hi, hj⟩ := @exists_repeat _ (named policy events) event events (by
      intro k hk
      cases k with
      | zero => exact ⟨event, hmem, rfl⟩
      | succ k =>
        obtain ⟨f, hf, _⟩ := hopen k (by omega)
        exact ⟨f, mem_of_follow hids hmem hf, hf⟩)
    refine ⟨i, b, hi, onLoop_of_repeat hlt hi hj, fun m g hg => ?_⟩
    have hturn : follow (named policy events) (j - i) b = some b := by
      rw [← Nat.add_sub_cancel' (Nat.le_of_lt hlt), follow_add_of hi] at hj
      exact hj
    -- the visited event is one of the turn that starts after the first visit of `b`
    rw [follow_mod hturn] at hg
    have hmod : m % (j - i) < j - i := Nat.mod_lt _ (Nat.sub_pos_of_lt hlt)
    by_cases hzero : m % (j - i) = 0
    · rw [hzero] at hg
      obtain ⟨f, hf, hunfinalized⟩ := hopen (j - 1) (by omega)
      rw [Nat.sub_add_cancel (by omega), hj] at hf
      have hbg : b = g := Option.some.inj hg
      rw [← hbg, Option.some.inj hf]
      exact hunfinalized
    · obtain ⟨f, hf, hunfinalized⟩ := hopen (i + m % (j - i) - 1) (by omega)
      rw [Nat.sub_add_cancel (by omega), follow_add_of hi, hg] at hf
      rw [Option.some.inj hf]
      exact hunfinalized

end Finalize

section Theorem

variable (policy : PinnedPolicy) (events : List XidEvent)

/-- The links between the decisions of a node loop only between XID 48 and XID 64, or between XID 45 and XID 154.
Every chain of links ends or runs into such a loop, and finalization comes to an end unless it runs into one of events
without an incident. -/
theorem links_loop_in_pairs_only (hids : (events.map XidEvent.eventId).Nodup) :
    (∀ event, OnLoop (named policy events) event →
      LoopOf policy events 48 64 event ∨ LoopOf policy events 45 154 event) ∧
    (∀ event ∈ events, (∃ n ≤ events.length, follow (named policy events) n event = none) ∨
      ∃ n f, follow (named policy events) n event = some f ∧ OnLoop (named policy events) f) ∧
    (∀ (store : XidStore) (orchestrator : Orchestrator), Evaluated policy events store → ∀ event ∈ events,
      ∀ decision : XidDecision, decision.correlatedEventId = linkOf policy events event →
        (finalizeXid orchestrator (events.length + 1) store event decision).isSome = true ∨
          ∃ n f, follow (named policy events) n event = some f ∧ OnLoop (named policy events) f ∧
            ∀ m g, follow (named policy events) m f = some g → Unfinalized store g) := by
  refine ⟨fun event h => loop_of_pair hids h, fun event hmem => ends_or_loops hids hmem, ?_⟩
  intro store orchestrator hevaluated event hmem decision hlink
  exact finalizes_or_loops hevaluated hids hmem hlink

private def faultOf (eventId : String) (xid : Nat) (observedAt : Time) : XidEvent :=
  { eventId
    xid
    observedAt
    gpuUuid := some "GPU-0"
    product := some "H100" }

private def rowFailure : List XidEvent := [faultOf "e48" 48 0, faultOf "e64" 64 1]

/-- An XID 48 and an XID 64 of one second are such a loop. -/
theorem row_failure_loop_is_of_48_and_64 :
    OnLoop (named catalog610 rowFailure) (faultOf "e48" 48 0) ∧
      (LoopOf catalog610 rowFailure 48 64 (faultOf "e48" 48 0) ∨
        LoopOf catalog610 rowFailure 45 154 (faultOf "e48" 48 0)) := by
  have hloop : OnLoop (named catalog610 rowFailure) (faultOf "e48" 48 0) := ⟨2, by decide, by decide +kernel⟩
  exact ⟨hloop, (links_loop_in_pairs_only catalog610 rowFailure (by decide)).1 _ hloop⟩

private def recoveryOf (eventId : String) (observedAt : Time) : XidEvent :=
  { faultOf eventId 154 observedAt with
    xid154Action := some .resetGpu }

private def preemptedChannel : List XidEvent := [faultOf "e45" 45 0, recoveryOf "e154" 1]

/-- An XID 48 and an XID 64 name each other, and so do an XID 45 and an XID 154. -/
theorem events_name_each_other :
    ((rowFailure.map XidEvent.eventId).Nodup ∧
      named catalog610 rowFailure (faultOf "e48" 48 0) = some (faultOf "e64" 64 1) ∧
      named catalog610 rowFailure (faultOf "e64" 64 1) = some (faultOf "e48" 48 0)) ∧
    (preemptedChannel.map XidEvent.eventId).Nodup ∧
      named catalog610 preemptedChannel (faultOf "e45" 45 0) = some (recoveryOf "e154" 1) ∧
      named catalog610 preemptedChannel (recoveryOf "e154" 1) = some (faultOf "e45" 45 0) := by
  refine ⟨⟨by decide, by decide +kernel, by decide +kernel⟩, by decide, by decide +kernel, by decide +kernel⟩

end Theorem

end Policy

end GpuFaultRecovery
