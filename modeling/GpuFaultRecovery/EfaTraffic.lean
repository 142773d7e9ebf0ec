import Mathlib.Algebra.Order.Ring.Rat
import Mathlib.Data.List.Chain
import Mathlib.Data.List.Induction
import Mathlib.Tactic.Linarith
import Mathlib.Tactic.NormNum
import GpuFaultRecovery.Run

/-!
# Stalls of EFA traffic

A training attempt on a node is watched through samples of its network traffic. A streak of near-zero samples turns
into a suspicion of a hang; reports of progress move the start of the streak, up to a limit. A stall opens an episode,
which reports the suspicion once and ends only after traffic has come back and stayed. Instants are rational seconds,
rates rational bytes per second.
-/

namespace GpuFaultRecovery

inductive EfaTrafficSignal where
  | warmup
  | normal
  | spike
  | drop
  | zeroPending
  | zeroWarning
  | hungSuspected
  | recovered
deriving DecidableEq, Repr

def EfaTrafficSignal.low : EfaTrafficSignal → Bool
  | .zeroPending | .zeroWarning | .hungSuspected => true
  | _ => false

inductive RecoveryThresholdSource where
  | preStallBaseline
  | absoluteFallback
deriving DecidableEq, Repr

structure EfaStallEpisode where
  episodeId : String
  startedAt : ℚ
  baselineBytesPerSecond : Option ℚ := none
  recoveryThresholdBps : ℚ
  recoveryThresholdSource : RecoveryThresholdSource
  recoverySince : Option ℚ := none
  recoverySamples : Nat := 0
  hungReported : Bool := false
deriving DecidableEq, Repr

/-- The attempt a row belongs to, and the row's key. -/
structure EfaIdentity where
  stateKey : String
  clusterId : String
  nodeId : String
  jobId : String
  attemptId : String
deriving DecidableEq, Repr

structure EfaTrafficState where
  identity : EfaIdentity
  firstObservedAt : ℚ
  observedAt : ℚ
  baselineBytesPerSecond : Option ℚ := none
  lastBytesPerSecond : ℚ
  hadActiveTraffic : Bool := false
  activeBaselineSamples : Nat := 0
  stallEpisode : Option EfaStallEpisode := none
  lastStableTrafficAt : Option ℚ := none
  zeroSince : Option ℚ := none
  zeroFirstSeenAt : Option ℚ := none
  consecutiveZeroSamples : Nat := 0
  signal : EfaTrafficSignal := .warmup
  activeSpikeEventId : Option String := none
  spikeAcknowledgedAt : Option ℚ := none
  spikeAcknowledgedBy : Option String := none
  spikeAcknowledgementReason : Option String := none
deriving DecidableEq, Repr

/-- `EfaRecoveryPolicy` with the bounds its fields are validated against. -/
structure EfaRecoveryPolicy where
  ratio : ℚ := 1 / 4
  noiseFloorBps : ℚ := 65536
  fallbackBps : ℚ := 1048576
  sustainedSeconds : ℚ := 120
  minimumSamples : Nat := 3
  maxGapSeconds : ℚ := 60
  ratio_bounds : 0 < ratio ∧ ratio ≤ 1 := by norm_num
  noiseFloor_pos : 0 < noiseFloorBps := by norm_num
  fallback_pos : 0 < fallbackBps := by norm_num
  sustained_bounds : 60 ≤ sustainedSeconds ∧ sustainedSeconds ≤ 3600 := by norm_num
  minimumSamples_bounds : 3 ≤ minimumSamples ∧ minimumSamples ≤ 120 := by norm_num
  maxGap_bounds : 1 ≤ maxGapSeconds ∧ maxGapSeconds ≤ 360 := by norm_num

/-- The fixed parameters of the state machine; the suppression limit, when there is one, is validated to be
positive. -/
structure EfaThresholds where
  minimumActiveBps : ℚ
  spikeRatio : ℚ
  dropRatio : ℚ
  zeroBps : ℚ
  zeroWarningSeconds : ℚ
  zeroHungSeconds : ℚ
  baselineAlpha : ℚ
  startupGraceSeconds : ℚ
  progressSuppressionMaxSeconds : Option ℚ := none
  suppression_pos : ∀ limit, progressSuppressionMaxSeconds = some limit → 0 < limit

/-- What watches one attempt; the digest and the rendering of instants only name episodes. -/
structure EfaMonitor where
  thresholds : EfaThresholds
  policy : EfaRecoveryPolicy := {}
  identity : EfaIdentity
  sha256 : String → String
  isoformat : ℚ → String

structure EfaSample where
  observedAt : ℚ
  bytesPerSecond : ℚ
  observationValid : Bool := true
  progressObservedAt : Option ℚ := none
  spikeEventId : String := ""
deriving DecidableEq, Repr

/-! ### The signal of a sample -/

/-- `_EfaWorkingState`. -/
structure EfaWorkingState where
  firstObservedAt : ℚ
  baseline : Option ℚ
  hadActive : Bool
  zeroSince : Option ℚ
  zeroFirstSeenAt : Option ℚ
  zeroSamples : Nat
  oldSignal : EfaTrafficSignal
  activeSpikeEventId : Option String
  spikeAcknowledgedAt : Option ℚ
  spikeAcknowledgedBy : Option String
  spikeAcknowledgementReason : Option String
deriving DecidableEq, Repr

namespace EfaWorkingState

def fromPrevious (previous : Option EfaTrafficState) (observedAt : ℚ) : EfaWorkingState where
  firstObservedAt := previous.elim observedAt (·.firstObservedAt)
  baseline := previous.bind (·.baselineBytesPerSecond)
  hadActive := previous.any (·.hadActiveTraffic)
  zeroSince := previous.bind (·.zeroSince)
  zeroFirstSeenAt := previous.bind (·.zeroFirstSeenAt)
  zeroSamples := previous.elim 0 (·.consecutiveZeroSamples)
  oldSignal := previous.elim .warmup (·.signal)
  activeSpikeEventId := previous.bind (·.activeSpikeEventId)
  spikeAcknowledgedAt := previous.bind (·.spikeAcknowledgedAt)
  spikeAcknowledgedBy := previous.bind (·.spikeAcknowledgedBy)
  spikeAcknowledgementReason := previous.bind (·.spikeAcknowledgementReason)

/-- The streak of near-zero samples is given up. -/
def withoutStreak (working : EfaWorkingState) : EfaWorkingState :=
  { working with
    zeroSince := none
    zeroFirstSeenAt := none
    zeroSamples := 0 }

end EfaWorkingState

/-- Where a streak starts after a report of progress: not before it started, not in the future, and no later than the
suppression limit allows. -/
def streakStart (thresholds : EfaThresholds) (zeroSince zeroFirstSeenAt observedAt : ℚ) (progress : Option ℚ) : ℚ :=
  match progress with
  | none => zeroSince
  | some progressAt =>
    if zeroSince < progressAt then
      let restartAt := min progressAt observedAt
      let limited := match thresholds.progressSuppressionMaxSeconds with
        | none => restartAt
        | some limit => min restartAt (zeroFirstSeenAt + limit)
      max zeroSince limited
    else zeroSince

def zeroTrafficSignal (thresholds : EfaThresholds) (working : EfaWorkingState) (sample : EfaSample) :
    EfaWorkingState × EfaTrafficSignal :=
  let counted := { working with zeroSamples := working.zeroSamples + 1 }
  if !(working.hadActive &&
    decide (thresholds.startupGraceSeconds ≤ sample.observedAt - working.firstObservedAt)) then
    (counted, .warmup)
  else
    let since := working.zeroSince.getD sample.observedAt
    let firstSeen := working.zeroFirstSeenAt.getD since
    let start := streakStart thresholds since firstSeen sample.observedAt sample.progressObservedAt
    let duration := sample.observedAt - start
    let signal : EfaTrafficSignal :=
      if thresholds.zeroHungSeconds ≤ duration then .hungSuspected
      else if thresholds.zeroWarningSeconds ≤ duration then .zeroWarning
      else .zeroPending
    ({ counted with
      zeroSince := some start
      zeroFirstSeenAt := some firstSeen }, signal)

def activeTrafficSignal (thresholds : EfaThresholds) (working : EfaWorkingState) (bytesPerSecond : ℚ) :
    EfaWorkingState × EfaTrafficSignal :=
  let recovering := working.oldSignal.low && working.hadActive
  let cleared := working.withoutStreak
  match working.baseline with
  | none =>
    (if thresholds.minimumActiveBps ≤ bytesPerSecond then
      { cleared with
        baseline := some bytesPerSecond
        hadActive := true }
    else cleared, .warmup)
  | some baseline =>
    let ratio := bytesPerSecond / max baseline 1
    let signal : EfaTrafficSignal :=
      if thresholds.spikeRatio ≤ ratio then .spike
      else if ratio ≤ thresholds.dropRatio then .drop
      else if recovering then .recovered
      else .normal
    let trained := if signal = .normal ∨ signal = .recovered then
        baseline * (1 - thresholds.baselineAlpha) + bytesPerSecond * thresholds.baselineAlpha
      else baseline
    ({ cleared with
      baseline := some trained
      hadActive := working.hadActive || decide (thresholds.minimumActiveBps ≤ bytesPerSecond) }, signal)

/-- Samples further apart than this are no continuous evidence. -/
def maxSampleGap (thresholds : EfaThresholds) : ℚ := max 360 thresholds.zeroWarningSeconds

/-- The working state a sample is judged in: after a gap the streak is given up. -/
def gapChecked (thresholds : EfaThresholds) (previous : Option EfaTrafficState) (sample : EfaSample) :
    EfaWorkingState :=
  let working := EfaWorkingState.fromPrevious previous sample.observedAt
  if previous.any fun state => decide (maxSampleGap thresholds < sample.observedAt - state.observedAt) then
    working.withoutStreak
  else working

/-- The working state and the signal of a sample that continues `previous`. -/
def sampleSignal (thresholds : EfaThresholds) (previous : Option EfaTrafficState) (sample : EfaSample) :
    EfaWorkingState × EfaTrafficSignal :=
  let working := gapChecked thresholds previous sample
  if !sample.observationValid then (working.withoutStreak, .warmup)
  else if sample.bytesPerSecond ≤ thresholds.zeroBps then zeroTrafficSignal thresholds working sample
  else activeTrafficSignal thresholds working sample.bytesPerSecond

/-- A new spike takes the sample's event; anything else than a spike drops it. -/
def spikeFields (working : EfaWorkingState) (signal : EfaTrafficSignal) (spikeEventId : String) : EfaWorkingState :=
  if signal = .spike ∧ working.oldSignal ≠ .spike then
    { working with
      activeSpikeEventId := some spikeEventId
      spikeAcknowledgedAt := none
      spikeAcknowledgedBy := none
      spikeAcknowledgementReason := none }
  else if signal ≠ .spike then
    { working with
      activeSpikeEventId := none
      spikeAcknowledgedAt := none
      spikeAcknowledgedBy := none
      spikeAcknowledgementReason := none }
  else working

/-! ### The stall episode -/

def openedEpisode (monitor : EfaMonitor) (previous : Option EfaTrafficState) (state : EfaTrafficState) :
    EfaStallEpisode :=
  let baseline := previous.bind (·.baselineBytesPerSecond)
  let count := previous.elim 0 (·.activeBaselineSamples)
  let trusted := (baseline.any fun value => decide (monitor.thresholds.minimumActiveBps ≤ value)) &&
    decide (3 ≤ count)
  let legacy := previous.filter (·.signal.low)
  let start := legacy.elim state.observedAt fun stalled => stalled.zeroFirstSeenAt.getD stalled.observedAt
  { episodeId := ((monitor.sha256 (state.identity.stateKey ++ "/" ++ state.identity.jobId ++ "/" ++
      state.identity.attemptId ++ "/" ++ monitor.isoformat start)).take 32).copy
    startedAt := start
    baselineBytesPerSecond := if trusted then baseline else none
    recoveryThresholdBps :=
      max (max (if trusted then baseline.getD 0 * monitor.policy.ratio else monitor.policy.fallbackBps)
        monitor.policy.noiseFloorBps) (monitor.thresholds.zeroBps * 2)
    recoveryThresholdSource := if trusted then .preStallBaseline else .absoluteFallback
    hungReported := legacy.any fun stalled => stalled.signal == .hungSuspected }

/-- The count of a recovery after a sample: a bad sample starts it anew, a good one adds to it. -/
def countedRecovery (policy : EfaRecoveryPolicy) (episode : EfaStallEpisode) (sample : EfaSample) (gap : ℚ) :
    EfaStallEpisode :=
  let kept := if !sample.observationValid || decide (policy.maxGapSeconds < gap) ||
      decide (sample.bytesPerSecond < episode.recoveryThresholdBps) then
      { episode with
        recoverySince := none
        recoverySamples := 0 }
    else episode
  if sample.observationValid && decide (episode.recoveryThresholdBps ≤ sample.bytesPerSecond) then
    { kept with
      recoverySince := some (kept.recoverySince.getD sample.observedAt)
      recoverySamples := kept.recoverySamples + 1 }
  else kept

/-- Whether the traffic has come back for long enough. -/
def recoveryComplete (policy : EfaRecoveryPolicy) (episode : EfaStallEpisode) (sample : EfaSample) : Bool :=
  sample.observationValid && decide (episode.recoveryThresholdBps ≤ sample.bytesPerSecond) &&
    decide (policy.minimumSamples ≤ episode.recoverySamples) &&
    episode.recoverySince.any fun since => decide (policy.sustainedSeconds ≤ sample.observedAt - since)

def currentEpisode (monitor : EfaMonitor) (previous : Option EfaTrafficState) (state : EfaTrafficState) :
    Option EfaStallEpisode :=
  (previous.bind (·.stallEpisode)).or
    (if state.signal.low || previous.any (·.signal.low) then some (openedEpisode monitor previous state) else none)

/-- `advance_episode`: the state with its episode, and whether a suspicion has been reported already. -/
def advanceEpisode (monitor : EfaMonitor) (previous : Option EfaTrafficState) (state : EfaTrafficState)
    (sample : EfaSample) : EfaTrafficState × Bool :=
  let rearmed := previous.bind (·.lastStableTrafficAt)
  let count := previous.elim 0 (·.activeBaselineSamples)
  match currentEpisode monitor previous state with
  | none =>
    let counts := sample.observationValid && decide (monitor.thresholds.minimumActiveBps ≤ sample.bytesPerSecond) &&
      (state.signal == .warmup || state.signal == .normal || state.signal == .recovered)
    ({ state with
      stallEpisode := none
      activeBaselineSamples := if counts then min (count + 1) 1000000 else count
      lastStableTrafficAt := rearmed }, false)
  | some episode =>
    -- the baseline is not trained on what happens in a stall
    let frozen := { state with
      baselineBytesPerSecond := previous.elim state.baselineBytesPerSecond (·.baselineBytesPerSecond)
      activeBaselineSamples := count }
    let gap := previous.elim 0 fun before => sample.observedAt - before.observedAt
    let counted := countedRecovery monitor.policy episode sample gap
    if recoveryComplete monitor.policy counted sample then
      ({ frozen with
        signal := .recovered
        stallEpisode := none
        lastStableTrafficAt := some sample.observedAt }, false)
    else
      let signal := if state.signal = .recovered then .normal else state.signal
      ({ frozen with
        signal
        stallEpisode := some { counted with hungReported := counted.hungReported || signal == .hungSuspected }
        lastStableTrafficAt := rearmed }, signal == .hungSuspected && counted.hungReported)

/-! ### The next state -/

def workedState (identity : EfaIdentity) (worked : EfaWorkingState × EfaTrafficSignal) (sample : EfaSample) :
    EfaTrafficState :=
  let working := spikeFields worked.1 worked.2 sample.spikeEventId
  { identity
    firstObservedAt := working.firstObservedAt
    observedAt := sample.observedAt
    baselineBytesPerSecond := working.baseline
    lastBytesPerSecond := sample.bytesPerSecond
    hadActiveTraffic := working.hadActive
    zeroSince := working.zeroSince
    zeroFirstSeenAt := working.zeroFirstSeenAt
    consecutiveZeroSamples := working.zeroSamples
    signal := worked.2
    activeSpikeEventId := working.activeSpikeEventId
    spikeAcknowledgedAt := working.spikeAcknowledgedAt
    spikeAcknowledgedBy := working.spikeAcknowledgedBy
    spikeAcknowledgementReason := working.spikeAcknowledgementReason }

def EfaTrafficSignal.emitted : EfaTrafficSignal → Bool
  | .spike | .drop | .zeroWarning | .hungSuspected | .recovered => true
  | _ => false

def efaStateBelongsTo (state : EfaTrafficState) (identity : EfaIdentity) : Bool :=
  state.identity.jobId == identity.jobId && state.identity.attemptId == identity.attemptId

/-- `next_efa_traffic_state`: the state after a sample, and whether its signal is emitted. -/
def nextEfaTrafficState (monitor : EfaMonitor) (previous : Option EfaTrafficState) (sample : EfaSample) :
    EfaTrafficState × Bool :=
  match previous with
  | none => continued none
  | some row =>
    -- a replay, or a sample out of order
    if sample.observedAt ≤ row.observedAt then (row, false)
    else if efaStateBelongsTo row monitor.identity then continued (some row)
    else continued none
where
  continued (previous : Option EfaTrafficState) : EfaTrafficState × Bool :=
    let worked := sampleSignal monitor.thresholds previous sample
    let advanced := advanceEpisode monitor previous (workedState monitor.identity worked sample) sample
    (advanced.1, advanced.1.signal.emitted && advanced.1.signal != previous.elim .warmup (·.signal) && !advanced.2)

end GpuFaultRecovery
