import Mathlib.Data.List.MinMax
import GpuFaultRecovery.Run
import GpuFaultRecovery.Table

/-!
# The node action ledger and its agent

The agent of a node keeps one ledger row per attempt of a command. A row is opened before the handler of the attempt
is dispatched and rewritten with the result; the newest row of a command decides what a submission may do. Here is the
part of the agent that concerns one command: the calls of `execute` that run it, the table of calls in flight, and
the pool wrapper that closes calls that raised. A step of a call or of a closing is one ledger call with what follows
it in memory; a ledger call that fails leaves the ledger as it was.
-/

namespace GpuFaultRecovery

inductive NodeActionStatus where
  | succeeded
  | failed
  | interrupted
deriving Repr, DecidableEq, Inhabited

/-- What is recorded of a finished attempt. -/
structure NodeActionResult where
  status : NodeActionStatus
  error : Option String := none
  retryable : Bool := false
deriving Repr, DecidableEq, Inhabited

/-- One attempt; without a result it is in progress. -/
structure LedgerRow where
  attempt : Nat
  result : Option NodeActionResult := none
deriving Repr, DecidableEq, Inhabited

namespace LedgerRow

/-- Whether the row forbids another attempt: it is in progress, or its result is not retryable. -/
def blocks (row : LedgerRow) : Bool := !row.result.any NodeActionResult.retryable

end LedgerRow

abbrev ActionLedger := Table LedgerRow.attempt

def unpersistedResultError : String := "result could not be persisted"

def restartInterruptedError : String :=
  "agent restarted while the action was in progress; manual confirmation is required"

/-- How often a result is written after the first write failed. -/
def ledgerSaveRetries : Nat := 3

namespace ActionLedger

def latestRow (ledger : ActionLedger) : Option LedgerRow := ledger.rows.argmax LedgerRow.attempt

def interrupted (error : String) : NodeActionResult := { status := .interrupted, error := some error }

def markInProgress (ledger : ActionLedger) (attempt : Nat) : ActionLedger := ledger.put { attempt }

/-- Rewrite an in-progress row as INTERRUPTED; `none` when the row is gone or already carries a result. -/
def markInterrupted (ledger : ActionLedger) (attempt : Nat) (error : String) : Option ActionLedger :=
  match ledger.get? attempt with
  | some { result := none, .. } => some (ledger.put { attempt, result := some (interrupted error) })
  | _ => none

def save (ledger : ActionLedger) (attempt : Nat) (result : NodeActionResult) : ActionLedger :=
  ledger.put { attempt, result := some result }

end ActionLedger

/-! ### Calls of `execute` -/

/-- Where a call of `execute` stands. `outer` tells the first look at the ledger, which is made without the lock, from
the second one, which decides under it. -/
inductive CallPhase where
  | validating
  | reading
  | dispatchedRow (attempt : Nat)
  | closing (outer : Bool) (attempt : Nat)
  | rereading (outer : Bool)
  | fencing
  | entering
  | deciding
  | waiting (owner : Nat)
  | collecting
  | admitted (attempt : Nat)
  | running (attempt : Nat)
  | saving (attempt : Nat) (result : NodeActionResult) (left : Nat)
  | marking (attempt : Nat) (error : String)
  | leaving (raised : Option (String × Bool))
  | returned
  | raised (error : String) (rejection : Bool)
deriving Repr, DecidableEq

/-- One call: whether its command asks for an ownership permit, and where it stands. -/
structure ExecuteCall where
  guarded : Bool
  phase : CallPhase := .validating
deriving Repr, DecidableEq

/-- How the pool wrapper closes a call that raised. -/
inductive ClosingPhase where
  | reading
  | interrupting (attempt : Nat)
  | rereading
  | saving (attempt : Nat)
  | closed
deriving Repr, DecidableEq

structure Closing where
  guarded : Bool
  error : String
  phase : ClosingPhase := .reading
deriving Repr, DecidableEq

/-- The agent as far as one command goes. `starts` are the attempts whose handler was started, in order, and
`concluded` says that a started handler returned successfully, failed for good, was interrupted by a restart, or ended
with a result that could not be written. -/
structure ActionAgent where
  ledger : ActionLedger
  calls : Nat → Option ExecuteCall
  closings : Nat → Option Closing
  lock : Option Nat
  inflight : Option Nat
  serving : Bool
  starts : List Nat
  concluded : Bool

namespace ActionAgent

def empty : ActionAgent :=
  { ledger := .empty, calls := fun _ => none, closings := fun _ => none, lock := none, inflight := none,
    serving := true, starts := [], concluded := false }

/-- The call `t` is at `phase` now. -/
def goto (st : ActionAgent) (t : Nat) (call : ExecuteCall) (phase : CallPhase) : ActionAgent :=
  { st with calls := fun t' => if t' = t then some { call with phase } else st.calls t' }

/-- The call `t` leaves the locked section for `phase`. -/
def release (st : ActionAgent) (t : Nat) (call : ExecuteCall) (phase : CallPhase) : ActionAgent :=
  { st.goto t call phase with lock := none }

/-- The call `t` enters the locked section. -/
def acquire (st : ActionAgent) (t : Nat) (call : ExecuteCall) (phase : CallPhase) : ActionAgent :=
  { st.goto t call phase with lock := some t }

/-- The call `t` registers the attempt it is going to run, and leaves the locked section. -/
def register (st : ActionAgent) (t : Nat) (call : ExecuteCall) (attempt : Nat) : ActionAgent :=
  { st.release t call (.admitted attempt) with inflight := some t }

def setClosing (st : ActionAgent) (i : Nat) (closing : Closing) (phase : ClosingPhase) : ActionAgent :=
  { st with closings := fun i' => if i' = i then some { closing with phase } else st.closings i' }

end ActionAgent

/-- How a handler ends: a failure is retryable or not, and a run that a quiesce window overlapped is a retryable
failure whatever the handler said. -/
inductive HandlerOutcome where
  | succeeded
  | failed (error : String) (retryable : Bool)
deriving Repr, DecidableEq

def HandlerOutcome.result : HandlerOutcome → NodeActionResult
  | .succeeded => { status := .succeeded }
  | .failed error retryable => { status := .failed, error := some error, retryable }

/-- What the world answers to a step: the call takes effect, fails, or refuses the command, or the handler ends. -/
inductive StepReply where
  | done
  | fails (error : String)
  | refuses (error : String)
  | ended (outcome : HandlerOutcome)
deriving Repr, DecidableEq

/-- A step of the call `t` of `execute`. A step that has to wait for the lock, or for the call in flight, does
nothing. -/
def callStep (st : ActionAgent) (t : Nat) (call : ExecuteCall) (reply : StepReply) : ActionAgent :=
  match call.phase, reply with
  | .validating, .done => st.goto t call .reading
  | .validating, .fails error => st.goto t call (.raised error false)
  | .validating, .refuses error => st.goto t call (.raised error true)
  | .reading, .fails error => st.goto t call (.raised error false)
  | .reading, .done =>
    match st.ledger.latestRow with
    | none => st.goto t call .fencing
    | some ⟨attempt, none⟩ => st.goto t call (.dispatchedRow attempt)
    | some ⟨_, some result⟩ => if result.retryable then st.goto t call .fencing else st.goto t call .returned
  | .dispatchedRow attempt, .done =>
    if st.lock.isSome then st
    else if st.inflight.isSome then st.goto t call .fencing
    else st.acquire t call (.closing true attempt)
  | .closing outer attempt, .done =>
    match st.ledger.markInterrupted attempt unpersistedResultError with
    | some ledger => { st.release t call .returned with ledger }
    | none => st.goto t call (.rereading outer)
  | .closing _ _, .fails _ => st.release t call .returned
  | .rereading outer, .done =>
    match st.ledger.latestRow with
    | some ⟨attempt, some result⟩ =>
      if !result.retryable then st.release t call .returned
      else if outer then st.release t call .fencing
      else st.register t call (attempt + 1)
    | _ => st.release t call .returned
  | .rereading _, .fails _ => st.release t call .returned
  | .fencing, .done => st.goto t call .entering
  | .fencing, .fails error => st.goto t call (.raised error false)
  | .fencing, .refuses error => st.goto t call (.raised error true)
  | .entering, .done =>
    if st.lock.isSome then st
    else
      match st.inflight with
      | some owner => st.goto t call (.waiting owner)
      | none => st.acquire t call .deciding
  | .deciding, .fails error => st.release t call (.raised error false)
  | .deciding, .done =>
    match st.ledger.latestRow with
    | none => st.register t call 1
    | some ⟨attempt, none⟩ => st.goto t call (.closing false attempt)
    | some ⟨attempt, some result⟩ =>
      if result.retryable then st.register t call (attempt + 1) else st.release t call .returned
  | .waiting owner, .done => if st.inflight = some owner then st else st.goto t call .collecting
  | .waiting _, .fails error => st.goto t call (.raised error false)
  | .collecting, .done =>
    match st.ledger.latestRow with
    | some ⟨_, some _⟩ => st.goto t call .returned
    | _ => st.goto t call (.raised "RuntimeError: in-flight node action completed without a ledger result" false)
  | .collecting, .fails error => st.goto t call (.raised error false)
  | .admitted attempt, .done =>
    { st.goto t call (.running attempt) with
      ledger := st.ledger.markInProgress attempt
      starts := st.starts ++ [attempt] }
  | .admitted _, .fails error => st.goto t call (.leaving (some (error, false)))
  | .admitted _, .refuses error => st.goto t call (.leaving (some (error, true)))
  | .running attempt, .ended outcome =>
    { st.goto t call (.saving attempt outcome.result ledgerSaveRetries) with
      concluded := st.concluded || !outcome.result.retryable }
  | .saving attempt result _, .done =>
    { st.goto t call (.leaving none) with ledger := st.ledger.save attempt result }
  | .saving attempt result (left + 1), .fails _ => st.goto t call (.saving attempt result left)
  | .saving attempt _ 0, .fails error =>
    { st.goto t call (.marking attempt (unpersistedResultError ++ ": " ++ error)) with concluded := true }
  | .marking attempt error, .done =>
    { st.goto t call (.leaving none) with ledger := (st.ledger.markInterrupted attempt error).getD st.ledger }
  | .marking _ _, .fails _ => st.goto t call (.leaving none)
  | .leaving raised, .done =>
    if st.lock.isSome then st
    else
      { st.goto t call (match raised with
          | some (error, rejection) => .raised error rejection
          | none => .returned) with
        inflight := none }
  | _, _ => st

/-! ### The pool wrapper -/

/-- A step of a closing (`finished_result`): what it may write depends on the newest row. -/
def closingStep (st : ActionAgent) (i : Nat) (closing : Closing) (reply : StepReply) : ActionAgent :=
  match closing.phase, reply with
  | .reading, .done =>
    match st.ledger.latestRow with
    | none => st.setClosing i closing (.saving 1)
    | some ⟨attempt, none⟩ => st.setClosing i closing (.interrupting attempt)
    | some ⟨attempt, some result⟩ =>
      -- the other closer of the same call may have written this very failure
      if !result.retryable || result.error = some closing.error then st.setClosing i closing .closed
      else st.setClosing i closing (.saving (attempt + 1))
  | .reading, .fails _ => st.setClosing i closing .closed
  | .interrupting attempt, .done =>
    match st.ledger.markInterrupted attempt (unpersistedResultError ++ ": " ++ closing.error) with
    | some ledger => { st.setClosing i closing .closed with ledger }
    | none => st.setClosing i closing .rereading
  | .interrupting _, .fails _ => st.setClosing i closing .closed
  | .rereading, _ => st.setClosing i closing .closed
  | .saving attempt, .done =>
    { st.setClosing i closing .closed with
      ledger :=
        st.ledger.save attempt { status := .failed, error := some closing.error, retryable := !closing.guarded } }
  | .saving _, .fails _ => st.setClosing i closing .closed
  | _, _ => st

/-! ### The agent -/

inductive AgentOp where
  | submit (t : Nat) (guarded : Bool)
  | call (t : Nat) (reply : StepReply)
  | close (i t : Nat)
  | closing (i : Nat) (reply : StepReply)
  | crash
  | interruptRow (attempt : Nat)
  | serve
deriving Repr, DecidableEq

/-- Whether the handler of the call was started and its result is not settled. -/
def CallPhase.started : CallPhase → Bool
  | .running _ | .saving .. | .marking .. => true
  | _ => false

/-- One step of the agent. A crash loses everything but the ledger; before the agent serves again it has rewritten
every in-progress row. -/
def agentStep (st : ActionAgent) : AgentOp → ActionAgent
  | .submit t guarded =>
    if st.serving && (st.calls t).isNone then st.goto t { guarded } .validating else st
  | .call t reply =>
    match st.calls t with
    | some call => callStep st t call reply
    | none => st
  | .close i t =>
    match st.calls t, st.closings i with
    | some ⟨guarded, .raised error rejection⟩, none =>
      -- a rejection is not an outcome
      if rejection && !guarded then st else st.setClosing i { guarded, error } .reading
    | _, _ => st
  | .closing i reply =>
    match st.closings i with
    | some closing => closingStep st i closing reply
    | none => st
  | .crash =>
    { ActionAgent.empty with
      ledger := st.ledger
      serving := false
      starts := st.starts
      concluded := st.concluded || (st.inflight.bind st.calls).any fun call => call.phase.started }
  | .interruptRow attempt =>
    if st.serving then st
    else { st with ledger := (st.ledger.markInterrupted attempt restartInterruptedError).getD st.ledger }
  | .serve => if st.ledger.rows.all fun row => row.result.isSome then { st with serving := true } else st

end GpuFaultRecovery
