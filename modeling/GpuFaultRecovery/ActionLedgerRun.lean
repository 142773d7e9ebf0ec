import GpuFaultRecovery.ActionLedger

/-!
# Runs of the agent

The newest row of the ledger decides whether a handler may start. Whatever the calls, the closings and the restarts
do, the call in flight is alone between its decision and its last write, so no attempt number is used twice. That no
handler starts after one that settled the command is a matter of the newest row staying in the way: every write keeps
it there, unless the pool wrapper writes a retryable failure over, or above, an attempt opened since it looked.
-/

namespace GpuFaultRecovery

open ActionLedger

/-! ### The newest row -/

namespace ActionLedger

variable {ledger : ActionLedger} {row : LedgerRow}

private theorem latestRow_eq_some :
    ledger.latestRow = some row ↔ ledger.get? row.attempt = some row ∧ ∀ a r, ledger.get? a = some r →
      a ≤ row.attempt := by
  unfold latestRow
  constructor
  · intro h
    have hmem := List.argmax_mem (Option.mem_def.mpr h)
    refine ⟨Table.mem_rows.mp hmem, fun a r hr => ?_⟩
    have hkey : r.attempt = a := Table.key_of_get? hr
    have hrow : r ∈ ledger.rows := Table.mem_rows.mpr (by rw [hkey]; exact hr)
    rw [← hkey]
    exact List.le_of_mem_argmax hrow (Option.mem_def.mpr h)
  · rintro ⟨hget, hmax⟩
    have hmem : row ∈ ledger.rows := Table.mem_rows.mpr hget
    cases harg : ledger.rows.argmax LedgerRow.attempt with
    | none =>
      rw [List.argmax_eq_none.mp harg] at hmem
      cases hmem
    | some top =>
      have htop := List.argmax_mem (Option.mem_def.mpr harg)
      have hle := List.le_of_mem_argmax hmem (Option.mem_def.mpr harg)
      have hge := hmax top.attempt top (Table.mem_rows.mp htop)
      have hsame : top.attempt = row.attempt := Nat.le_antisymm hge hle
      have htopget := Table.mem_rows.mp htop
      rw [hsame, hget] at htopget
      exact htopget.symm

private theorem latestRow_eq_none : ledger.latestRow = none ↔ ∀ a, ledger.get? a = none := by
  unfold latestRow
  rw [List.argmax_eq_none]
  constructor
  · intro h a
    cases hget : ledger.get? a with
    | none => rfl
    | some r =>
      have hkey : r.attempt = a := Table.key_of_get? hget
      have hrow : r ∈ ledger.rows := Table.mem_rows.mpr (by rw [hkey]; exact hget)
      rw [h] at hrow
      cases hrow
  · intro h
    rw [List.eq_nil_iff_forall_not_mem]
    intro r hr
    have hget := Table.mem_rows.mp hr
    rw [h] at hget
    cases hget

/-- A write becomes the newest row unless there is a newer one. -/
private theorem latestRow_put (ledger : ActionLedger) (r : LedgerRow) :
    latestRow (ledger.put r) = some r ∧ (∀ row, ledger.latestRow = some row → row.attempt ≤ r.attempt) ∨
      ∃ row, ledger.latestRow = some row ∧ r.attempt < row.attempt ∧ latestRow (ledger.put r) = some row := by
  cases hlatest : ledger.latestRow with
  | none =>
    left
    refine ⟨latestRow_eq_some.mpr ⟨Table.get?_put_self _ _, fun a r' hr' => ?_⟩, by simp⟩
    rw [Table.get?_put] at hr'
    split at hr'
    · rename_i ha
      exact ha.le
    · rw [latestRow_eq_none.mp hlatest] at hr'
      cases hr'
  | some row =>
    obtain ⟨hget, hmax⟩ := latestRow_eq_some.mp hlatest
    by_cases hle : row.attempt ≤ r.attempt
    · left
      refine ⟨latestRow_eq_some.mpr ⟨Table.get?_put_self _ _, fun a r' hr' => ?_⟩, ?_⟩
      · rw [Table.get?_put] at hr'
        split at hr'
        · rename_i ha
          exact ha.le
        · exact (hmax a r' hr').trans hle
      · rintro row' hrow'
        cases hrow'
        exact hle
    · right
      have hlt : r.attempt < row.attempt := Nat.lt_of_not_le hle
      refine ⟨row, rfl, hlt, latestRow_eq_some.mpr ⟨?_, fun a r' hr' => ?_⟩⟩
      · rw [Table.get?_put_ne (by omega)]
        exact hget
      · rw [Table.get?_put] at hr'
        split at hr'
        · rename_i ha
          exact ha.le.trans hlt.le
        · exact hmax a r' hr'

/-- The newest row is in the way of another attempt. -/
def Blocked (ledger : ActionLedger) : Prop := ∃ row, ledger.latestRow = some row ∧ row.blocks = true

/-- Every attempt of `l` is at most the newest one. -/
def Covers (ledger : ActionLedger) (l : List Nat) : Prop :=
  ∀ a ∈ l, ∃ row, ledger.latestRow = some row ∧ a ≤ row.attempt

private theorem Covers.put {l : List Nat} (h : Covers ledger l) (r : LedgerRow) : Covers (ledger.put r) l := by
  intro a ha
  obtain ⟨row, hrow, hle⟩ := h a ha
  rcases latestRow_put ledger r with ⟨hnew, hmax⟩ | ⟨row', hrow', hlt, hkeep⟩
  · exact ⟨r, hnew, hle.trans (hmax row hrow)⟩
  · rw [hrow] at hrow'
    cases hrow'
    exact ⟨row, hkeep, hle⟩

private theorem Blocked.put (h : Blocked ledger) {r : LedgerRow} (hr : r.blocks = true) : Blocked (ledger.put r) := by
  obtain ⟨row, hrow, hblocks⟩ := h
  rcases latestRow_put ledger r with ⟨hnew, -⟩ | ⟨row', hrow', -, hkeep⟩
  · exact ⟨r, hnew, hr⟩
  · rw [hrow] at hrow'
    cases hrow'
    exact ⟨row, hkeep, hblocks⟩

private theorem markInterrupted_eq_some {ledger' : ActionLedger} {attempt : Nat} {error : String}
    (h : ledger.markInterrupted attempt error = some ledger') :
    ledger' = ledger.put { attempt, result := some (interrupted error) } := by
  unfold markInterrupted at h
  split at h
  · exact (Option.some.inj h).symm
  · cases h

private theorem markInterrupted_getD (ledger : ActionLedger) (attempt : Nat) (error : String) :
    (ledger.markInterrupted attempt error).getD ledger = ledger ∨
      (ledger.markInterrupted attempt error).getD ledger = ledger.put
        { attempt, result := some (interrupted error) } := by
  cases h : ledger.markInterrupted attempt error with
  | none => exact Or.inl rfl
  | some ledger' => exact Or.inr (markInterrupted_eq_some h)

end ActionLedger

/-! ### Who holds what -/

namespace CallPhase

def holdsLock : CallPhase → Bool
  | .closing .. | .rereading _ | .deciding => true
  | _ => false

/-- Whether a call at this phase decides, under the lock, on the next attempt. -/
def decides : CallPhase → Bool
  | .closing false _ | .rereading false | .deciding => true
  | _ => false

def owns : CallPhase → Bool
  | .admitted _ | .running _ | .saving .. | .marking .. | .leaving _ => true
  | _ => false

end CallPhase

/-- The lock and the table of calls in flight are what the phases of the calls say, and no attempt number is used
twice: the started attempts are below the one a call is going to run. -/
structure AgentOk (st : ActionAgent) : Prop where
  lock : ∀ t c, st.calls t = some c → c.phase.holdsLock = true → st.lock = some t
  decides : ∀ t c, st.calls t = some c → c.phase.decides = true → st.inflight = none
  owner : ∀ t c, st.calls t = some c → c.phase.owns = true → st.inflight = some t
  nodup : st.starts.Nodup
  covers : Covers st.ledger st.starts
  admitted : ∀ t c k, st.calls t = some c → c.phase = .admitted k → ∀ a ∈ st.starts, a < k

/-- A handler may not start again once the command is settled: the newest row is in the way whenever it has to be. -/
structure AgentSettled (st : ActionAgent) : Prop where
  concluded : st.concluded = true → Blocked st.ledger
  admitted : ∀ t c k, st.calls t = some c → c.phase = .admitted k →
    st.concluded = false ∧ ∀ row, st.ledger.latestRow = some row → k < row.attempt → row.blocks = true
  started : ∀ t c, st.calls t = some c → c.phase.started = true → Blocked st.ledger
  running : ∀ t c k, st.calls t = some c → c.phase = .running k → st.concluded = false
  saving :
    ∀ t c k r left, st.calls t = some c → c.phase = .saving k r left → r.retryable = true → st.concluded = false

/-- The pool wrapper may write a retryable failure at attempt `m`: the newest row is above `m` or is itself a
retryable failure, and the call in flight, if it is still to open its attempt, opens `m` or a later one. -/
def WrapperWriteSafe (st : ActionAgent) : AgentOp → Prop
  | .closing i .done => ∀ closing m, st.closings i = some closing → closing.phase = .saving m →
      closing.guarded = false →
      (∀ row, st.ledger.latestRow = some row → m < row.attempt ∨ row.blocks = false) ∧
      ∀ t c k, st.inflight = some t → st.calls t = some c → c.phase = .admitted k → m ≤ k
  | _ => True

/-! ### What one step does -/

/-- A phase outside the locked section and outside the flight. -/
def CallPhase.quiet (phase : CallPhase) : Prop := phase.holdsLock = false ∧ phase.owns = false

/-- The attempt a call that decides may register: the first one, or the one after a retryable failure. -/
def NextAttempt (ledger : ActionLedger) (attempt : Nat) : Prop :=
  (ledger.latestRow = none ∧ attempt = 1) ∨
    ∃ row, ledger.latestRow = some row ∧ row.blocks = false ∧ attempt = row.attempt + 1

/-- What a step of a call can do. -/
inductive CallEffect (st : ActionAgent) (t : Nat) (call : ExecuteCall) : ActionAgent → Prop
  | idle : CallEffect st t call st
  | moves (phase : CallPhase) (hfrom : call.phase.quiet) (hto : phase.quiet) :
      CallEffect st t call (st.goto t call phase)
  | acquires (phase : CallPhase) (hfrom : call.phase.quiet) (hlock : st.lock = none) (hfree : st.inflight = none)
      (hto : phase.owns = false) : CallEffect st t call (st.acquire t call phase)
  | stays (phase : CallPhase) (hfrom : call.phase.holdsLock = true) (hto : phase.holdsLock = true)
      (howns : phase.owns = false) (hdecides : phase.decides = true → call.phase.decides = true) :
      CallEffect st t call (st.goto t call phase)
  | releases (phase : CallPhase) (hfrom : call.phase.holdsLock = true) (hto : phase.quiet) :
      CallEffect st t call (st.release t call phase)
  | interrupts (attempt : Nat) (error : String) (hfrom : call.phase.holdsLock = true) :
      CallEffect st t call { st.release t call .returned with
        ledger := st.ledger.put { attempt, result := some (interrupted error) } }
  | registers (attempt : Nat) (hfrom : call.phase.decides = true) (hnext : NextAttempt st.ledger attempt) :
      CallEffect st t call (st.register t call attempt)
  | dispatches (attempt : Nat) (hfrom : call.phase = .admitted attempt) :
      CallEffect st t call { st.goto t call (.running attempt) with
        ledger := st.ledger.markInProgress attempt
        starts := st.starts ++ [attempt] }
  | refused (raised : String × Bool) (attempt : Nat) (hfrom : call.phase = .admitted attempt) :
      CallEffect st t call (st.goto t call (.leaving (some raised)))
  | ends (attempt : Nat) (outcome : HandlerOutcome) (hfrom : call.phase = .running attempt) :
      CallEffect st t call { st.goto t call (.saving attempt outcome.result ledgerSaveRetries) with
        concluded := st.concluded || !outcome.result.retryable }
  | saves (attempt left : Nat) (result : NodeActionResult) (hfrom : call.phase = .saving attempt result left) :
      CallEffect st t call { st.goto t call (.leaving none) with ledger := st.ledger.save attempt result }
  | retries (attempt left : Nat) (result : NodeActionResult)
      (hfrom : call.phase = .saving attempt result (left + 1)) :
      CallEffect st t call (st.goto t call (.saving attempt result left))
  | unwritten (attempt : Nat) (result : NodeActionResult) (error : String)
      (hfrom : call.phase = .saving attempt result 0) :
      CallEffect st t call { st.goto t call (.marking attempt error) with concluded := true }
  | marks (attempt : Nat) (error : String) (hfrom : call.phase = .marking attempt error) (ledger : ActionLedger)
      (hledger : ledger = st.ledger ∨ ledger = st.ledger.put { attempt, result := some (interrupted error) }) :
      CallEffect st t call { st.goto t call (.leaving none) with ledger }
  | leaves (phase : CallPhase) (hfrom : call.phase.owns = true) (hto : phase.quiet) :
      CallEffect st t call { st.goto t call phase with inflight := none }

private theorem callStep_effect (st : ActionAgent) (t : Nat) (call : ExecuteCall) (reply : StepReply) :
    CallEffect st t call (callStep st t call reply) := by
  obtain ⟨guarded, phase⟩ := call
  cases phase with
  | validating =>
    cases reply with
    | done | fails | refuses => exact .moves _ ⟨rfl, rfl⟩ ⟨rfl, rfl⟩
    | ended => exact .idle
  | reading =>
    cases reply with
    | done =>
      dsimp only [callStep]
      split
      · exact .moves _ ⟨rfl, rfl⟩ ⟨rfl, rfl⟩
      · exact .moves _ ⟨rfl, rfl⟩ ⟨rfl, rfl⟩
      · split <;> exact .moves _ ⟨rfl, rfl⟩ ⟨rfl, rfl⟩
    | fails => exact .moves _ ⟨rfl, rfl⟩ ⟨rfl, rfl⟩
    | refuses | ended => exact .idle
  | dispatchedRow attempt =>
    cases reply with
    | done =>
      dsimp only [callStep]
      split
      · exact .idle
      · rename_i hlock
        split
        · exact .moves _ ⟨rfl, rfl⟩ ⟨rfl, rfl⟩
        · rename_i hfree
          exact .acquires _ ⟨rfl, rfl⟩ (by simpa using hlock) (by simpa using hfree) rfl
    | fails | refuses | ended => exact .idle
  | closing outer attempt =>
    cases reply with
    | done =>
      dsimp only [callStep]
      split
      · rename_i ledger hledger
        rw [markInterrupted_eq_some hledger]
        exact .interrupts _ _ rfl
      · refine .stays _ rfl rfl rfl ?_
        cases outer <;> simp [CallPhase.decides]
    | fails => exact .releases _ rfl ⟨rfl, rfl⟩
    | refuses | ended => exact .idle
  | rereading outer =>
    cases reply with
    | done =>
      dsimp only [callStep]
      split
      · rename_i attempt result hlatest
        split
        · exact .releases _ rfl ⟨rfl, rfl⟩
        · rename_i hretryable
          split
          · exact .releases _ rfl ⟨rfl, rfl⟩
          · rename_i houter
            have hinner : outer = false := by simpa using houter
            subst hinner
            exact .registers _ rfl (Or.inr ⟨_, hlatest, by simpa [LedgerRow.blocks] using hretryable, rfl⟩)
      · exact .releases _ rfl ⟨rfl, rfl⟩
    | fails => exact .releases _ rfl ⟨rfl, rfl⟩
    | refuses | ended => exact .idle
  | fencing =>
    cases reply with
    | done | fails | refuses => exact .moves _ ⟨rfl, rfl⟩ ⟨rfl, rfl⟩
    | ended => exact .idle
  | entering =>
    cases reply with
    | done =>
      dsimp only [callStep]
      split
      · exact .idle
      · rename_i hlock
        split
        · exact .moves _ ⟨rfl, rfl⟩ ⟨rfl, rfl⟩
        · rename_i hfree
          exact .acquires _ ⟨rfl, rfl⟩ (by simpa using hlock) hfree rfl
    | fails | refuses | ended => exact .idle
  | deciding =>
    cases reply with
    | done =>
      dsimp only [callStep]
      split
      · rename_i hlatest
        exact .registers _ rfl (Or.inl ⟨hlatest, rfl⟩)
      · exact .stays _ rfl rfl rfl fun _ => rfl
      · rename_i attempt result hlatest
        split
        · rename_i hretryable
          exact .registers _ rfl (Or.inr ⟨_, hlatest, by simpa [LedgerRow.blocks] using hretryable, rfl⟩)
        · exact .releases _ rfl ⟨rfl, rfl⟩
    | fails => exact .releases _ rfl ⟨rfl, rfl⟩
    | refuses | ended => exact .idle
  | waiting owner =>
    cases reply with
    | done =>
      dsimp only [callStep]
      split
      · exact .idle
      · exact .moves _ ⟨rfl, rfl⟩ ⟨rfl, rfl⟩
    | fails => exact .moves _ ⟨rfl, rfl⟩ ⟨rfl, rfl⟩
    | refuses | ended => exact .idle
  | collecting =>
    cases reply with
    | done =>
      dsimp only [callStep]
      split <;> exact .moves _ ⟨rfl, rfl⟩ ⟨rfl, rfl⟩
    | fails => exact .moves _ ⟨rfl, rfl⟩ ⟨rfl, rfl⟩
    | refuses | ended => exact .idle
  | admitted attempt =>
    cases reply with
    | done => exact .dispatches attempt rfl
    | fails | refuses => exact .refused _ attempt rfl
    | ended => exact .idle
  | running attempt =>
    cases reply with
    | ended outcome => exact .ends attempt outcome rfl
    | done | fails | refuses => exact .idle
  | saving attempt result left =>
    cases reply with
    | done => exact .saves attempt left result rfl
    | fails error =>
      cases left with
      | zero => exact .unwritten attempt result _ rfl
      | succ left => exact .retries attempt left result rfl
    | refuses | ended => exact .idle
  | marking attempt error =>
    cases reply with
    | done => exact .marks attempt error rfl _ (markInterrupted_getD _ _ _)
    | fails => exact .marks attempt error rfl _ (Or.inl rfl)
    | refuses | ended => exact .idle
  | leaving raised =>
    cases reply with
    | done =>
      dsimp only [callStep]
      split
      · exact .idle
      · split
        · exact .leaves _ rfl ⟨rfl, rfl⟩
        · exact .leaves _ rfl ⟨rfl, rfl⟩
    | fails | refuses | ended => exact .idle
  | returned | raised => cases reply <;> exact .idle

/-! ### No attempt number is used twice -/

private theorem goto_calls {st : ActionAgent} {t t' : Nat} {call c : ExecuteCall} {phase : CallPhase}
    (h : (st.goto t call phase).calls t' = some c) : t' = t ∧ c.phase = phase ∨ t' ≠ t ∧ st.calls t' = some c := by
  simp only [ActionAgent.goto] at h
  split at h
  · rename_i he
    exact Or.inl ⟨he, by rw [← Option.some.inj h]⟩
  · exact Or.inr ⟨‹_›, h⟩

private theorem CallPhase.holdsLock_of_decides {phase : CallPhase} (h : phase.decides = true) :
    phase.holdsLock = true := by
  cases phase <;> simp_all [CallPhase.decides, CallPhase.holdsLock]

private theorem CallPhase.quiet.decides {phase : CallPhase} (h : phase.quiet) : phase.decides = false := by
  by_contra hd
  have hlock := CallPhase.holdsLock_of_decides (by simpa using hd)
  rw [h.1] at hlock
  cases hlock

private theorem CallPhase.owns_apart {phase : CallPhase} (h : phase.owns = true) :
    phase.holdsLock = false ∧ phase.decides = false := by
  cases phase <;> simp_all [CallPhase.owns, CallPhase.holdsLock, CallPhase.decides]

/-- The call `t` moves to `phase`: what has to be checked of the lock and of the table of calls in flight. -/
private theorem AgentOk.move {st st' : ActionAgent} (h : AgentOk st) {t : Nat} {call : ExecuteCall}
    {phase : CallPhase} (hcalls : st'.calls = (st.goto t call phase).calls)
    (hlock : phase.holdsLock = true → st'.lock = some t)
    (hlocks : ∀ t', t' ≠ t → st.lock = some t' → st'.lock = some t')
    (hdecides : phase.decides = true → st'.inflight = none)
    (hfree : ∀ t', t' ≠ t → st.lock = some t' → st.inflight = none → st'.inflight = none)
    (howns : phase.owns = true → st'.inflight = some t)
    (howners : ∀ t', t' ≠ t → st.inflight = some t' → st'.inflight = some t')
    (hnodup : st'.starts.Nodup) (hcovers : Covers st'.ledger st'.starts)
    (hadmitted : ∀ k, phase = .admitted k → ∀ a ∈ st'.starts, a < k)
    (hothers : ∀ t', t' ≠ t → st.inflight = some t' → st'.starts = st.starts) : AgentOk st' where
  lock := by
    intro t' c hc hp
    rw [hcalls] at hc
    rcases goto_calls hc with ⟨rfl, hphase⟩ | ⟨hne, hold⟩
    · exact hlock (hphase ▸ hp)
    · exact hlocks t' hne (h.lock t' c hold hp)
  decides := by
    intro t' c hc hp
    rw [hcalls] at hc
    rcases goto_calls hc with ⟨rfl, hphase⟩ | ⟨hne, hold⟩
    · exact hdecides (hphase ▸ hp)
    · exact hfree t' hne (h.lock t' c hold (CallPhase.holdsLock_of_decides hp)) (h.decides t' c hold hp)
  owner := by
    intro t' c hc hp
    rw [hcalls] at hc
    rcases goto_calls hc with ⟨rfl, hphase⟩ | ⟨hne, hold⟩
    · exact howns (hphase ▸ hp)
    · exact howners t' hne (h.owner t' c hold hp)
  nodup := hnodup
  covers := hcovers
  admitted := by
    intro t' c k hc hp
    rw [hcalls] at hc
    rcases goto_calls hc with ⟨rfl, hphase⟩ | ⟨hne, hold⟩
    · exact hadmitted k (hphase.symm.trans hp)
    · rw [hothers t' hne (h.owner t' c hold (by rw [hp]; rfl))]
      exact h.admitted t' c k hold hp

private theorem NextAttempt.above {ledger : ActionLedger} {attempt : Nat} {starts : List Nat}
    (h : NextAttempt ledger attempt) (hcovers : Covers ledger starts) : ∀ a ∈ starts, a < attempt := by
  intro a ha
  obtain ⟨row, hrow, hle⟩ := hcovers a ha
  rcases h with ⟨hnone, -⟩ | ⟨row', hrow', -, rfl⟩
  · rw [hnone] at hrow
    cases hrow
  · rw [hrow] at hrow'
    cases hrow'
    omega

private theorem AgentOk.fly {st : ActionAgent} (h : AgentOk st) {t : Nat} {call : ExecuteCall}
    (hcall : st.calls t = some call) (hfrom : call.phase.owns = true) {phase : CallPhase} (hto : phase.owns = true)
    (hnew : ∀ k, phase ≠ .admitted k) {ledger : ActionLedger} (hcovers : Covers ledger st.starts) (concluded : Bool) :
    AgentOk { st.goto t call phase with ledger, concluded } := by
  have hmine := h.owner t call hcall hfrom
  obtain ⟨hlock, hdecides⟩ := CallPhase.owns_apart hto
  refine h.move rfl ?_ (fun _ _ hl => hl) ?_ (fun _ _ _ hf => hf) (fun _ => hmine) (fun _ _ hi => hi) h.nodup
    hcovers ?_
    fun _ _ _ => rfl
  · rw [hlock]; simp
  · rw [hdecides]; simp
  · exact fun k hk => absurd hk (hnew k)

private theorem AgentOk.unlock {st : ActionAgent} (h : AgentOk st) {t : Nat} {call : ExecuteCall}
    (hcall : st.calls t = some call) (hfrom : call.phase.holdsLock = true) {phase : CallPhase} (hto : phase.quiet)
    {ledger : ActionLedger} (hcovers : Covers ledger st.starts) :
    AgentOk { st.release t call phase with ledger } := by
  have hmine := h.lock t call hcall hfrom
  refine h.move rfl ?_ ?_ ?_ (fun _ _ _ hf => hf) ?_ (fun _ _ hi => hi) h.nodup hcovers ?_ fun _ _ _ => rfl
  · rw [hto.1]; simp
  · intro t' hne hl
    rw [hmine] at hl
    exact absurd (Option.some.inj hl).symm hne
  · rw [hto.decides]; simp
  · rw [hto.2]; simp
  · rintro k rfl
    cases hto.2

private theorem agentOk_call {st st' : ActionAgent} {t : Nat} {call : ExecuteCall} (h : AgentOk st)
    (hcall : st.calls t = some call) (heff : CallEffect st t call st') : AgentOk st' := by
  cases heff with
  | idle => exact h
  | moves phase hfrom hto =>
    refine h.move rfl ?_ (fun _ _ hl => hl) ?_ (fun _ _ _ hf => hf) ?_ (fun _ _ hi => hi) h.nodup h.covers ?_
      fun _ _ _ => rfl
    · rw [hto.1]; simp
    · rw [hto.decides]; simp
    · rw [hto.2]; simp
    · rintro k rfl
      cases hto.2
  | acquires phase hfrom hlock hfree hto =>
    refine h.move rfl (fun _ => rfl) ?_ (fun _ => hfree) (fun _ _ _ hf => hf) ?_ (fun _ _ hi => hi) h.nodup
      h.covers ?_
      fun _ _ _ => rfl
    · intro t' _ hl
      rw [hlock] at hl
      cases hl
    · rw [hto]; simp
    · rintro k rfl
      cases hto
  | stays phase hfrom hto howns hdecides =>
    refine h.move rfl (fun _ => h.lock t call hcall hfrom) (fun _ _ hl => hl)
      (fun hd => h.decides t call hcall (hdecides hd)) (fun _ _ _ hf => hf) ?_ (fun _ _ hi => hi) h.nodup h.covers ?_
      fun _ _ _ => rfl
    · rw [howns]; simp
    · rintro k rfl
      cases howns
  | releases phase hfrom hto => exact h.unlock hcall hfrom hto h.covers
  | interrupts attempt error hfrom => exact h.unlock hcall hfrom ⟨rfl, rfl⟩ (h.covers.put _)
  | registers attempt hfrom hnext =>
    have hmine := h.lock t call hcall (CallPhase.holdsLock_of_decides hfrom)
    have hfree := h.decides t call hcall hfrom
    have hothers : ∀ t', t' ≠ t → st.lock ≠ some t' := by
      intro t' hne hl
      rw [hmine] at hl
      exact hne (Option.some.inj hl).symm
    refine h.move rfl (by simp [CallPhase.holdsLock]) (fun t' hne hl => absurd hl (hothers t' hne))
      (by simp [CallPhase.decides]) (fun t' hne hl => absurd hl (hothers t' hne)) (fun _ => rfl) ?_ h.nodup
        h.covers ?_
      fun _ _ _ => rfl
    · intro t' _ hi
      rw [hfree] at hi
      cases hi
    · intro k hk
      cases hk
      exact hnext.above h.covers
  | dispatches attempt hfrom =>
    have hmine := h.owner t call hcall (by rw [hfrom]; rfl)
    have hbelow := h.admitted t call attempt hcall hfrom
    refine h.move rfl (by simp [CallPhase.holdsLock]) (fun _ _ hl => hl) (by simp [CallPhase.decides])
      (fun _ _ _ hf => hf) (fun _ => hmine) (fun _ _ hi => hi) ?_ ?_ (by simp) ?_
    · rw [List.nodup_append]
      refine ⟨h.nodup, by simp, ?_⟩
      intro a ha b hb hab
      rw [List.mem_singleton] at hb
      have := hbelow a ha
      omega
    · intro a ha
      rcases List.mem_append.mp ha with hold | hnew
      · exact h.covers.put _ a hold
      · rw [List.mem_singleton] at hnew
        subst hnew
        rcases latestRow_put st.ledger { attempt := a } with ⟨hrow, -⟩ | ⟨row, -, hlt, hrow⟩
        · exact ⟨_, hrow, Nat.le_refl _⟩
        · exact ⟨row, hrow, hlt.le⟩
    · intro t' hne hi
      rw [hmine] at hi
      exact absurd (Option.some.inj hi).symm hne
  | refused raised attempt hfrom => exact h.fly hcall (by rw [hfrom]; rfl) rfl (by simp) h.covers _
  | ends attempt outcome hfrom => exact h.fly hcall (by rw [hfrom]; rfl) rfl (by simp) h.covers _
  | saves attempt left result hfrom => exact h.fly hcall (by rw [hfrom]; rfl) rfl (by simp) (h.covers.put _) _
  | retries attempt left result hfrom => exact h.fly hcall (by rw [hfrom]; rfl) rfl (by simp) h.covers _
  | unwritten attempt result error hfrom => exact h.fly hcall (by rw [hfrom]; rfl) rfl (by simp) h.covers _
  | marks attempt error hfrom ledger hledger =>
    refine h.fly hcall (by rw [hfrom]; rfl) rfl (by simp) ?_ _
    rcases hledger with rfl | rfl
    · exact h.covers
    · exact h.covers.put _
  | leaves phase hfrom hto =>
    have hmine := h.owner t call hcall hfrom
    refine h.move rfl ?_ (fun _ _ hl => hl) (fun _ => rfl) (fun _ _ _ _ => rfl) ?_ ?_ h.nodup h.covers ?_
      fun _ _ _ => rfl
    · rw [hto.1]; simp
    · rw [hto.2]; simp
    · intro t' hne hi
      rw [hmine] at hi
      exact absurd (Option.some.inj hi).symm hne
    · rintro k rfl
      cases hto.2

private theorem AgentOk.write {st st' : ActionAgent} (h : AgentOk st) (hcalls : st'.calls = st.calls)
    (hlock : st'.lock = st.lock) (hinflight : st'.inflight = st.inflight) (hstarts : st'.starts = st.starts)
    (hcovers : Covers st'.ledger st.starts) :
    AgentOk st' where
  lock := by rw [hcalls, hlock]; exact h.lock
  decides := by rw [hcalls, hinflight]; exact h.decides
  owner := by rw [hcalls, hinflight]; exact h.owner
  nodup := by rw [hstarts]; exact h.nodup
  covers := by rw [hstarts]; exact hcovers
  admitted := by rw [hcalls, hstarts]; exact h.admitted

/-- What a step of a closing can do. -/
inductive ClosingEffect (st : ActionAgent) (i : Nat) (closing : Closing) (reply : StepReply) : ActionAgent → Prop
  | idle : ClosingEffect st i closing reply st
  | notes (phase : ClosingPhase) : ClosingEffect st i closing reply (st.setClosing i closing phase)
  | interrupts (attempt : Nat) (error : String) :
      ClosingEffect st i closing reply { st.setClosing i closing .closed with
        ledger := st.ledger.put { attempt, result := some (interrupted error) } }
  | saves (attempt : Nat) (hfrom : closing.phase = .saving attempt) (hreply : reply = .done) :
      ClosingEffect st i closing reply { st.setClosing i closing .closed with
        ledger := st.ledger.save attempt
          { status := .failed, error := some closing.error, retryable := !closing.guarded } }

private theorem closingStep_effect (st : ActionAgent) (i : Nat) (closing : Closing) (reply : StepReply) :
    ClosingEffect st i closing reply (closingStep st i closing reply) := by
  unfold closingStep
  split
  · split
    · exact .notes _
    · exact .notes _
    · split <;> exact .notes _
  · exact .notes _
  · split
    · rename_i ledger hledger
      rw [markInterrupted_eq_some hledger]
      exact .interrupts _ _
    · exact .notes _
  · exact .notes _
  · exact .notes _
  · rename_i attempt hfrom
    exact .saves attempt hfrom rfl
  · exact .notes _
  · exact .idle

private theorem agentOk_closing {st st' : ActionAgent} {i : Nat} {closing : Closing} {reply : StepReply}
    (h : AgentOk st) (heff : ClosingEffect st i closing reply st') : AgentOk st' := by
  cases heff with
  | idle => exact h
  | notes => exact h.write rfl rfl rfl rfl h.covers
  | interrupts => exact h.write rfl rfl rfl rfl (h.covers.put _)
  | saves => exact h.write rfl rfl rfl rfl (h.covers.put _)

private theorem agentOk_step {st : ActionAgent} (h : AgentOk st) (op : AgentOp) : AgentOk (agentStep st op) := by
  cases op with
  | submit t guarded =>
    simp only [agentStep]
    split
    · exact h.move rfl (by simp [CallPhase.holdsLock]) (fun _ _ hl => hl) (by simp [CallPhase.decides])
        (fun _ _ _ hf => hf) (by simp [CallPhase.owns]) (fun _ _ hi => hi) h.nodup h.covers (by simp) fun _ _ _ => rfl
    · exact h
  | call t reply =>
    simp only [agentStep]
    split
    · rename_i call hcall
      exact agentOk_call h hcall (callStep_effect st t call reply)
    · exact h
  | close i t =>
    simp only [agentStep]
    split
    · split
      · exact h
      · exact h.write rfl rfl rfl rfl h.covers
    · exact h
  | closing i reply =>
    simp only [agentStep]
    split
    · exact agentOk_closing h (closingStep_effect st i _ reply)
    · exact h
  | crash =>
    exact ⟨by simp [agentStep, ActionAgent.empty], by simp [agentStep, ActionAgent.empty],
      by simp [agentStep, ActionAgent.empty], h.nodup, h.covers, by simp [agentStep, ActionAgent.empty]⟩
  | interruptRow attempt =>
    simp only [agentStep]
    split
    · exact h
    · refine h.write rfl rfl rfl rfl ?_
      rcases markInterrupted_getD st.ledger attempt restartInterruptedError with hsame | hput
      · rw [hsame]
        exact h.covers
      · rw [hput]
        exact h.covers.put _
  | serve =>
    simp only [agentStep]
    split
    · exact h.write rfl rfl rfl rfl h.covers
    · exact h

private theorem agentOk_empty : AgentOk .empty := by
  refine ⟨?_, ?_, ?_, List.nodup_nil, ?_, ?_⟩ <;> simp [ActionAgent.empty, Covers]

/-! ### The newest row stays in the way -/

/-- What a write of the ledger may not undo. -/
structure Keeps (ledger ledger' : ActionLedger) : Prop where
  blocked : Blocked ledger → Blocked ledger'
  above : ∀ k, (∀ row, ledger.latestRow = some row → k < row.attempt → row.blocks = true) →
    ∀ row, ledger'.latestRow = some row → k < row.attempt → row.blocks = true

private theorem Keeps.refl (ledger : ActionLedger) : Keeps ledger ledger := ⟨id, fun _ h => h⟩

private theorem Keeps.put {ledger : ActionLedger} {r : LedgerRow} (hr : r.blocks = true) :
    Keeps ledger (ledger.put r) where
  blocked := fun h => h.put hr
  above := by
    intro k habove row hrow hlt
    rcases latestRow_put ledger r with ⟨hnew, -⟩ | ⟨row', hrow', -, hkeep⟩
    · rw [hnew] at hrow
      cases hrow
      exact hr
    · rw [hkeep] at hrow
      cases hrow
      exact habove row hrow' hlt

/-- A call that is neither about to open an attempt nor running one moves, and the ledger keeps what it has to. -/
private theorem AgentSettled.move {st st' : ActionAgent} (h : AgentSettled st) {t : Nat} {call : ExecuteCall}
    {phase : CallPhase} (hcalls : st'.calls = (st.goto t call phase).calls) (hover : st'.concluded = st.concluded)
    (hkeeps : Keeps st.ledger st'.ledger) (hadmitted : ∀ k, phase ≠ .admitted k) (hstarted : phase.started = false) :
    AgentSettled st' where
  concluded := fun ho => hkeeps.blocked (h.concluded (by rw [← hover]; exact ho))
  admitted := by
    intro t' c k hc hp
    rw [hcalls] at hc
    rcases goto_calls hc with ⟨rfl, hphase⟩ | ⟨-, hold⟩
    · exact absurd (hphase.symm.trans hp) (hadmitted k)
    · obtain ⟨ho, habove⟩ := h.admitted t' c k hold hp
      exact ⟨by rw [hover]; exact ho, hkeeps.above k habove⟩
  started := by
    intro t' c hc hp
    rw [hcalls] at hc
    rcases goto_calls hc with ⟨rfl, hphase⟩ | ⟨-, hold⟩
    · rw [hphase, hstarted] at hp
      cases hp
    · exact hkeeps.blocked (h.started t' c hold hp)
  running := by
    intro t' c k hc hp
    rw [hcalls] at hc
    rcases goto_calls hc with ⟨rfl, hphase⟩ | ⟨-, hold⟩
    · rw [← hphase, hp] at hstarted
      cases hstarted
    · rw [hover]
      exact h.running t' c k hold hp
  saving := by
    intro t' c k r left hc hp hr
    rw [hcalls] at hc
    rcases goto_calls hc with ⟨rfl, hphase⟩ | ⟨-, hold⟩
    · rw [← hphase, hp] at hstarted
      cases hstarted
    · rw [hover]
      exact h.saving t' c k r left hold hp hr

/-- The call in flight moves: no other call is about to open an attempt or running one. -/
private theorem AgentSettled.fly {st st' : ActionAgent} {t : Nat} {call : ExecuteCall}
    (hmine : ∀ t' c, t' ≠ t → st.calls t' = some c → c.phase.owns = false) {phase : CallPhase}
    (hcalls : st'.calls = (st.goto t call phase).calls)
    (hover : st'.concluded = true → Blocked st'.ledger)
    (hadmitted : ∀ k, phase = .admitted k →
      st'.concluded = false ∧ ∀ row, st'.ledger.latestRow = some row → k < row.attempt → row.blocks = true)
    (hstarted : phase.started = true → Blocked st'.ledger)
    (hrunning : ∀ k, phase = .running k → st'.concluded = false)
    (hsaving : ∀ k r left, phase = .saving k r left → r.retryable = true → st'.concluded = false) :
    AgentSettled st' := by
  have hcase : ∀ t' c, st'.calls t' = some c → c.phase = phase ∨ c.phase.owns = false := by
    intro t' c hc
    rw [hcalls] at hc
    rcases goto_calls hc with ⟨-, hphase⟩ | ⟨hne, hold⟩
    · exact Or.inl hphase
    · exact Or.inr (hmine t' c hne hold)
  refine ⟨hover, ?_, ?_, ?_, ?_⟩
  · intro t' c k hc hp
    rcases hcase t' c hc with hphase | howns
    · exact hadmitted k (hphase.symm.trans hp)
    · rw [hp] at howns
      cases howns
  · intro t' c hc hp
    rcases hcase t' c hc with hphase | howns
    · exact hstarted (hphase ▸ hp)
    · revert hp howns
      cases c.phase <;> simp [CallPhase.started, CallPhase.owns]
  · intro t' c k hc hp
    rcases hcase t' c hc with hphase | howns
    · exact hrunning k (hphase.symm.trans hp)
    · rw [hp] at howns
      cases howns
  · intro t' c k r left hc hp hr
    rcases hcase t' c hc with hphase | howns
    · exact hsaving k r left (hphase.symm.trans hp) hr
    · rw [hp] at howns
      cases howns

private theorem CallPhase.not_started_of_not_owns {phase : CallPhase} (h : phase.owns = false) :
    (∀ k, phase ≠ .admitted k) ∧ phase.started = false := by
  cases phase <;> simp_all [CallPhase.owns, CallPhase.started]

private theorem settled_call {st st' : ActionAgent} {t : Nat} {call : ExecuteCall} (hok : AgentOk st)
    (h : AgentSettled st) (hcall : st.calls t = some call) (heff : CallEffect st t call st') : AgentSettled st' := by
  -- while the call is in flight, no other call is
  have halone : call.phase.owns = true → ∀ t' c, t' ≠ t → st.calls t' = some c → c.phase.owns = false := by
    intro howns t' c hne hc
    by_contra hp
    have hmine := hok.owner t call hcall howns
    rw [hok.owner t' c hc (by simpa using hp)] at hmine
    exact hne (Option.some.inj hmine)
  have hquiet := @CallPhase.not_started_of_not_owns
  cases heff with
  | idle => exact h
  | moves phase hfrom hto => exact h.move rfl rfl (.refl _) (hquiet hto.2).1 (hquiet hto.2).2
  | acquires phase hfrom hlock hfree hto => exact h.move rfl rfl (.refl _) (hquiet hto).1 (hquiet hto).2
  | stays phase hfrom hto howns hdecides => exact h.move rfl rfl (.refl _) (hquiet howns).1 (hquiet howns).2
  | releases phase hfrom hto => exact h.move rfl rfl (.refl _) (hquiet hto.2).1 (hquiet hto.2).2
  | interrupts attempt error hfrom => exact h.move rfl rfl (.put rfl) (by simp) rfl
  | registers attempt hfrom hnext =>
    have hfree := hok.decides t call hcall hfrom
    have hnone : ∀ t' c, t' ≠ t → st.calls t' = some c → c.phase.owns = false := by
      intro t' c _ hc
      by_contra hp
      rw [hok.owner t' c hc (by simpa using hp)] at hfree
      cases hfree
    have hopen : st.concluded = false := by
      by_contra ho
      obtain ⟨row, hrow, hblocks⟩ := h.concluded (by simpa using ho)
      rcases hnext with ⟨hnone, -⟩ | ⟨row', hrow', hretryable, -⟩
      · rw [hnone] at hrow
        cases hrow
      · rw [hrow] at hrow'
        cases hrow'
        rw [hblocks] at hretryable
        cases hretryable
    refine AgentSettled.fly hnone rfl h.concluded ?_ (by simp [CallPhase.started]) (by simp) (by simp)
    intro k hk
    cases hk
    refine ⟨hopen, fun row hrow hlt => ?_⟩
    rcases hnext with ⟨hnone, -⟩ | ⟨row', hrow', -, rfl⟩
    · have hrow : st.ledger.latestRow = some row := hrow
      rw [hnone] at hrow
      cases hrow
    · have hrow : st.ledger.latestRow = some row := hrow
      rw [hrow] at hrow'
      cases hrow'
      omega
  | dispatches attempt hfrom =>
    obtain ⟨hopen, habove⟩ := h.admitted t call attempt hcall hfrom
    have hblocked : Blocked (st.ledger.markInProgress attempt) := by
      rcases latestRow_put st.ledger { attempt } with ⟨hrow, -⟩ | ⟨row, hrow, hlt, hkeep⟩
      · exact ⟨_, hrow, rfl⟩
      · exact ⟨row, hkeep, habove row hrow hlt⟩
    exact AgentSettled.fly (halone (by rw [hfrom]; rfl)) rfl (fun _ => hblocked) (by simp) (fun _ => hblocked)
      (fun _ _ => hopen) (by simp)
  | refused raised attempt hfrom => exact h.move rfl rfl (.refl _) (by simp) rfl
  | ends attempt outcome hfrom =>
    have hblocked := h.started t call hcall (by rw [hfrom]; rfl)
    have hopen := h.running t call attempt hcall hfrom
    refine AgentSettled.fly (halone (by rw [hfrom]; rfl)) rfl (fun _ => hblocked) (by simp) (fun _ => hblocked)
      (by simp) ?_
    intro k r left hp hr
    cases hp
    simp [hopen, hr]
  | saves attempt left result hfrom =>
    cases hr : result.retryable with
    | false =>
      refine h.move rfl rfl (.put ?_) (by simp) rfl
      simp [LedgerRow.blocks, hr]
    | true =>
      have hopen := h.saving t call attempt result left hcall hfrom hr
      refine AgentSettled.fly (halone (by rw [hfrom]; rfl)) rfl (fun ho => ?_) (by simp) (by simp [CallPhase.started])
        (by simp) (by simp)
      rw [show st.concluded = true from ho] at hopen
      cases hopen
  | retries attempt left result hfrom =>
    have hblocked := h.started t call hcall (by rw [hfrom]; rfl)
    refine AgentSettled.fly (halone (by rw [hfrom]; rfl)) rfl h.concluded (by simp) (fun _ => hblocked) (by simp) ?_
    intro k r left' hp hr
    cases hp
    exact h.saving t call attempt result (left + 1) hcall hfrom hr
  | unwritten attempt result error hfrom =>
    have hblocked := h.started t call hcall (by rw [hfrom]; rfl)
    exact AgentSettled.fly (halone (by rw [hfrom]; rfl)) rfl (fun _ => hblocked) (by simp)
      (fun _ => hblocked) (by simp)
      (by simp)
  | marks attempt error hfrom ledger hledger =>
    refine h.move rfl rfl ?_ (by simp) rfl
    rcases hledger with rfl | rfl
    · exact .refl _
    · exact .put rfl
  | leaves phase hfrom hto => exact h.move rfl rfl (.refl _) (hquiet hto.2).1 (hquiet hto.2).2

private theorem AgentSettled.write {st st' : ActionAgent} (h : AgentSettled st) (hcalls : st'.calls = st.calls)
    (hover : st'.concluded = st.concluded) (hblocked : Blocked st.ledger → Blocked st'.ledger)
    (habove : ∀ t c k, st.calls t = some c → c.phase = .admitted k →
      (∀ row, st.ledger.latestRow = some row → k < row.attempt → row.blocks = true) →
      ∀ row, st'.ledger.latestRow = some row → k < row.attempt → row.blocks = true) : AgentSettled st' where
  concluded := fun ho => hblocked (h.concluded (by rw [← hover]; exact ho))
  admitted := by
    intro t c k hc hp
    rw [hcalls] at hc
    obtain ⟨ho, hrow⟩ := h.admitted t c k hc hp
    exact ⟨by rw [hover]; exact ho, habove t c k hc hp hrow⟩
  started := by
    intro t c hc hp
    rw [hcalls] at hc
    exact hblocked (h.started t c hc hp)
  running := by rw [hcalls, hover]; exact h.running
  saving := by rw [hcalls, hover]; exact h.saving

private theorem AgentSettled.keep {st st' : ActionAgent} (h : AgentSettled st) (hcalls : st'.calls = st.calls)
    (hover : st'.concluded = st.concluded) (hkeeps : Keeps st.ledger st'.ledger) : AgentSettled st' :=
  h.write hcalls hover hkeeps.blocked fun _ _ k _ _ => hkeeps.above k

private theorem settled_closing {st st' : ActionAgent} {i : Nat} {closing : Closing} {reply : StepReply}
    (hok : AgentOk st) (h : AgentSettled st) (hclosing : st.closings i = some closing)
    (hsafe : WrapperWriteSafe st (.closing i reply)) (heff : ClosingEffect st i closing reply st') :
    AgentSettled st' := by
  cases heff with
  | idle => exact h
  | notes => exact h.keep rfl rfl (.refl _)
  | interrupts => exact h.keep rfl rfl (.put rfl)
  | saves attempt hfrom hreply =>
    cases hguarded : closing.guarded with
    | true => exact h.keep rfl rfl (.put rfl)
    | false =>
      subst hreply
      obtain ⟨hnewest, hflight⟩ := hsafe closing attempt hclosing hfrom hguarded
      refine h.write rfl rfl ?_ ?_
      · rintro ⟨row, hrow, hblocks⟩
        rcases latestRow_put st.ledger (⟨attempt, some ⟨.failed, some closing.error, true⟩⟩ : LedgerRow) with
          ⟨-, hmax⟩ | ⟨row', hrow', -, hkeep⟩
        · have hle : row.attempt ≤ attempt := hmax row hrow
          rcases hnewest row hrow with hlt | hretryable
          · omega
          · rw [hblocks] at hretryable
            cases hretryable
        · rw [hrow] at hrow'
          cases hrow'
          exact ⟨row, hkeep, hblocks⟩
      · intro t c k hc hp habove row hrow hlt
        have hm := hflight t c k (hok.owner t c hc (by rw [hp]; rfl)) hc hp
        rcases latestRow_put st.ledger (⟨attempt, some ⟨.failed, some closing.error, true⟩⟩ : LedgerRow) with
          ⟨hnew, -⟩ | ⟨row', hrow', -, hkeep⟩
        · rw [show row = _ from Option.some.inj (hrow.symm.trans hnew)] at hlt
          exact absurd hlt (by simpa using hm)
        · rw [show row = row' from Option.some.inj (hrow.symm.trans hkeep)] at hlt ⊢
          exact habove row' hrow' hlt

private theorem settled_step {st : ActionAgent} (hok : AgentOk st) (h : AgentSettled st) {op : AgentOp}
    (hsafe : WrapperWriteSafe st op) :
    AgentSettled (agentStep st op) := by
  cases op with
  | submit t guarded =>
    simp only [agentStep]
    split
    · exact h.move rfl rfl (.refl _) (by simp) rfl
    · exact h
  | call t reply =>
    simp only [agentStep]
    split
    · rename_i call hcall
      exact settled_call hok h hcall (callStep_effect st t call reply)
    · exact h
  | close i t =>
    simp only [agentStep]
    split
    · split
      · exact h
      · exact h.keep rfl rfl (.refl _)
    · exact h
  | closing i reply =>
    simp only [agentStep]
    split
    · rename_i closing hclosing
      exact settled_closing hok h hclosing hsafe (closingStep_effect st i closing reply)
    · exact h
  | crash =>
    refine ⟨fun ho => ?_, by simp [agentStep, ActionAgent.empty], by simp [agentStep, ActionAgent.empty],
      by simp [agentStep, ActionAgent.empty], by simp [agentStep, ActionAgent.empty]⟩
    simp only [agentStep, Bool.or_eq_true, Option.any_eq_true, Option.bind_eq_some_iff] at ho
    rcases ho with ho | ⟨c, ⟨t, -, hc⟩, hp⟩
    · exact h.concluded ho
    · exact h.started t c hc hp
  | interruptRow attempt =>
    simp only [agentStep]
    split
    · exact h
    · refine h.keep rfl rfl ?_
      rcases markInterrupted_getD st.ledger attempt restartInterruptedError with hsame | hput
      · rw [hsame]
        exact .refl _
      · rw [hput]
        exact .put rfl
  | serve =>
    simp only [agentStep]
    split
    · exact h.keep rfl rfl (.refl _)
    · exact h

private theorem settled_empty : AgentSettled .empty := by
  refine ⟨?_, ?_, ?_, ?_, ?_⟩ <;> simp [ActionAgent.empty]

/-! ### At most one run -/

/-- Once the command is settled, a step starts no handler. -/
private theorem starts_step {st : ActionAgent} (h : AgentSettled st) (hover : st.concluded = true) (op : AgentOp) :
    (agentStep st op).starts = st.starts ∧ (agentStep st op).concluded = true := by
  cases op with
  | submit t guarded =>
    simp only [agentStep]
    split <;> exact ⟨rfl, hover⟩
  | call t reply =>
    simp only [agentStep]
    split
    · rename_i call hcall
      have heff := callStep_effect st t call reply
      generalize callStep st t call reply = st' at heff ⊢
      cases heff with
      | dispatches attempt hfrom =>
        rw [(h.admitted t call attempt hcall hfrom).1] at hover
        cases hover
      | ends => exact ⟨rfl, by simp [hover]⟩
      | unwritten => exact ⟨rfl, rfl⟩
      | _ => exact ⟨rfl, hover⟩
    · exact ⟨rfl, hover⟩
  | close i t =>
    simp only [agentStep]
    split
    · split <;> exact ⟨rfl, hover⟩
    · exact ⟨rfl, hover⟩
  | closing i reply =>
    simp only [agentStep]
    split
    · rename_i closing hclosing
      have heff := closingStep_effect st i closing reply
      generalize closingStep st i closing reply = st' at heff ⊢
      cases heff <;> exact ⟨rfl, hover⟩
    · exact ⟨rfl, hover⟩
  | crash => exact ⟨rfl, by simp [agentStep, hover]⟩
  | interruptRow attempt =>
    simp only [agentStep]
    split <;> exact ⟨rfl, hover⟩
  | serve =>
    simp only [agentStep]
    split <;> exact ⟨rfl, hover⟩

/-- In every run in which the pool wrapper writes its retryable failures only where no attempt was opened since it
looked: no attempt number starts a handler twice, and once a started handler returned successfully, failed for good,
was interrupted by a restart or ended with a result that could not be written, no handler starts again. -/
theorem handler_starts_once (ops later : List AgentOp)
    (hsafe : Run.Along agentStep WrapperWriteSafe .empty (ops ++ later)) :
    (Run.exec agentStep .empty ops).starts.Nodup ∧
    ((Run.exec agentStep .empty ops).concluded = true →
      (Run.exec agentStep .empty (ops ++ later)).starts = (Run.exec agentStep .empty ops).starts) := by
  have hstep : ∀ st op, AgentOk st ∧ AgentSettled st → WrapperWriteSafe st op →
      AgentOk (agentStep st op) ∧ AgentSettled (agentStep st op) :=
    fun st op h hop => ⟨agentOk_step h.1 op, settled_step h.1 h.2 hop⟩
  have hmid : AgentOk (Run.exec agentStep .empty ops) ∧ AgentSettled (Run.exec agentStep .empty ops) :=
    Run.invariant_exec (I := fun st => AgentOk st ∧ AgentSettled st) hstep
      ⟨agentOk_empty, settled_empty⟩ hsafe.split.1
  refine ⟨hmid.1.nodup, fun hover => ?_⟩
  rw [Run.exec_append]
  have hend := Run.invariant_exec
    (I := fun st => (AgentOk st ∧ AgentSettled st) ∧ st.concluded = true ∧
      st.starts = (Run.exec agentStep .empty ops).starts)
    (fun st op h hop => ?_) ⟨hmid, hover, rfl⟩ hsafe.split.2
  · exact hend.2.2
  · obtain ⟨hstarts, ho⟩ := starts_step h.1.2 h.2.1 op
    exact ⟨hstep st op h.1 hop, ho, hstarts.trans h.2.2⟩

/-- The call `t` reads the ledger, passes the fencing check and registers its attempt. -/
private def admittedCall (t : Nat) : List AgentOp :=
  [.submit t false, .call t .done, .call t .done, .call t .done, .call t .done, .call t .done]

/-- The call `t` runs its handler to success and writes the result. -/
private def succeededCall (t : Nat) : List AgentOp :=
  admittedCall t ++ [.call t .done, .call t (.ended .succeeded), .call t .done, .call t .done]

theorem handler_starts_once_resubmitted :
    (Run.exec agentStep .empty (succeededCall 0)).concluded = true ∧
    (Run.exec agentStep .empty (succeededCall 0)).starts = [1] ∧
    (Run.exec agentStep .empty (succeededCall 0 ++ succeededCall 1)).starts = [1] := by
  have hstarts : (Run.exec agentStep .empty (succeededCall 0)).starts = [1] := by decide
  have hover : (Run.exec agentStep .empty (succeededCall 0)).concluded = true := by decide
  refine ⟨hover, hstarts, ?_⟩
  rw [(handler_starts_once (succeededCall 0) (succeededCall 1) ?_).2 hover, hstarts]
  simp only [succeededCall, admittedCall, List.cons_append, List.nil_append, Run.Along, WrapperWriteSafe, and_self]

/-- Two closers of a call that failed to open its attempt look at an empty ledger. One fails to write, the command is
submitted again and succeeds; then the other writes its retryable failure over the success. -/
private def lateFailureRow : List AgentOp :=
  admittedCall 0 ++ [.call 0 (.fails "OperationalError: database is locked"), .call 0 .done] ++
    [.close 0 0, .close 1 0, .closing 0 .done, .closing 1 .done, .closing 1 (.fails "OperationalError")] ++
    succeededCall 1

theorem handler_restarted_after_success :
    ¬ ∀ ops later : List AgentOp, (Run.exec agentStep .empty ops).starts.Nodup ∧
      ((Run.exec agentStep .empty ops).concluded = true →
        (Run.exec agentStep .empty (ops ++ later)).starts = (Run.exec agentStep .empty ops).starts) := by
  intro h
  have hrun := (h lateFailureRow (.closing 0 .done :: succeededCall 2)).2 (by decide)
  exact absurd hrun (by decide)

end GpuFaultRecovery
