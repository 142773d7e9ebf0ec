import GpuFaultRecovery.EfaTraffic

/-!
# The stall detector over runs of samples

What one sample does to the streak of near-zero samples, to the episode and to the count of a recovery is stated for
one sample; an invariant that ties the row to the samples behind it carries it along every sequence of later samples.
-/

namespace GpuFaultRecovery

/-! ### One sample -/

section Sample

variable {thresholds : EfaThresholds} {previous : Option EfaTrafficState} {sample : EfaSample}

/-- A streak that has a start: it was first seen no later than it starts, which is not in the future and not beyond
the suppression limit. -/
structure StreakBounds (thresholds : EfaThresholds) (since firstSeen observedAt : ℚ) : Prop where
  firstSeen_le : firstSeen ≤ since
  since_le : since ≤ observedAt
  limited : ∀ limit, thresholds.progressSuppressionMaxSeconds = some limit → since ≤ firstSeen + limit

def StreakInv (thresholds : EfaThresholds) (zeroSince zeroFirstSeenAt : Option ℚ) (observedAt : ℚ) : Prop :=
  (zeroSince = none ∧ zeroFirstSeenAt = none) ∨
    ∃ since firstSeen, zeroSince = some since ∧ zeroFirstSeenAt = some firstSeen ∧
      StreakBounds thresholds since firstSeen observedAt

private theorem StreakBounds.mono {since firstSeen observedAt later : ℚ}
    (h : StreakBounds thresholds since firstSeen observedAt)
    (hle : observedAt ≤ later) : StreakBounds thresholds since firstSeen later :=
  ⟨h.firstSeen_le, h.since_le.trans hle, h.limited⟩

private theorem streakBounds_start (thresholds : EfaThresholds) (at₁ : ℚ) : StreakBounds thresholds at₁ at₁ at₁ := by
  refine ⟨le_rfl, le_rfl, fun limit hlimit => ?_⟩
  have hpos := thresholds.suppression_pos limit hlimit
  linarith

/-- A report of progress keeps a streak in its bounds. -/
private theorem streakBounds_streakStart {since firstSeen observedAt : ℚ}
    (h : StreakBounds thresholds since firstSeen observedAt) (progress : Option ℚ) :
    StreakBounds thresholds (streakStart thresholds since firstSeen observedAt progress) firstSeen observedAt := by
  unfold streakStart
  split
  · exact h
  · rename_i progressAt
    split
    · dsimp only
      split
      · rename_i hnone
        refine ⟨h.firstSeen_le.trans (le_max_left _ _), max_le h.since_le (min_le_right _ _), fun limit hlimit => ?_⟩
        rw [hnone] at hlimit
        cases hlimit
      · rename_i limit hlimit
        refine ⟨h.firstSeen_le.trans (le_max_left _ _), ?_, fun limit' hlimit' => ?_⟩
        · exact max_le h.since_le ((min_le_left _ _).trans (min_le_right _ _))
        · obtain rfl := Option.some.inj (hlimit.symm.trans hlimit')
          exact max_le (h.limited limit hlimit) (min_le_right _ _)
    · exact h

@[simp] theorem gapChecked_firstObservedAt : (gapChecked thresholds previous sample).firstObservedAt =
    previous.elim sample.observedAt (·.firstObservedAt) := by
  unfold gapChecked
  dsimp only
  split <;> rfl

@[simp] theorem gapChecked_hadActive : (gapChecked thresholds previous sample).hadActive =
    previous.any (·.hadActiveTraffic) := by
  unfold gapChecked
  dsimp only
  split <;> rfl

private theorem gapChecked_streak (h : ∀ state, previous = some state →
    StreakInv thresholds state.zeroSince state.zeroFirstSeenAt state.observedAt ∧
      state.observedAt ≤ sample.observedAt) :
    StreakInv thresholds (gapChecked thresholds previous sample).zeroSince
      (gapChecked thresholds previous sample).zeroFirstSeenAt sample.observedAt := by
  unfold gapChecked
  dsimp only
  split
  · exact .inl ⟨rfl, rfl⟩
  · cases previous with
    | none => exact .inl ⟨rfl, rfl⟩
    | some state =>
      obtain ⟨hstreak, hle⟩ := h state rfl
      rcases hstreak with ⟨hsince, hfirst⟩ | ⟨since, firstSeen, hsince, hfirst, hbounds⟩
      · exact .inl ⟨hsince, hfirst⟩
      · exact .inr ⟨since, firstSeen, hsince, hfirst, hbounds.mono hle⟩

/-! #### The near-zero branch -/

/-- The streak after a near-zero sample of a started attempt. -/
structure ZeroStreak (thresholds : EfaThresholds) (working : EfaWorkingState) (sample : EfaSample)
    (result : EfaWorkingState × EfaTrafficSignal) : Prop where
  low : result.2.low = true
  bounds : ∃ since firstSeen, result.1.zeroSince = some since ∧ result.1.zeroFirstSeenAt = some firstSeen ∧
    StreakBounds thresholds since firstSeen sample.observedAt ∧
    firstSeen = working.zeroFirstSeenAt.getD sample.observedAt ∧
    (thresholds.zeroHungSeconds ≤ sample.observedAt - since → result.2 = .hungSuspected)

private theorem zeroTrafficSignal_started {working : EfaWorkingState} (hactive : working.hadActive = true)
    (hgrace : thresholds.startupGraceSeconds ≤ sample.observedAt - working.firstObservedAt)
    (hstreak : StreakInv thresholds working.zeroSince working.zeroFirstSeenAt sample.observedAt) :
    ZeroStreak thresholds working sample (zeroTrafficSignal thresholds working sample) := by
  unfold zeroTrafficSignal
  simp only [hactive, hgrace, decide_true, Bool.and_self, Bool.not_true, Bool.false_eq_true, if_false]
  have hbounds : StreakBounds thresholds (working.zeroSince.getD sample.observedAt)
      (working.zeroFirstSeenAt.getD (working.zeroSince.getD sample.observedAt)) sample.observedAt ∧
      working.zeroFirstSeenAt.getD (working.zeroSince.getD sample.observedAt) =
        working.zeroFirstSeenAt.getD sample.observedAt := by
    rcases hstreak with ⟨hsince, hfirst⟩ | ⟨since, firstSeen, hsince, hfirst, hbounds⟩
    · rw [hsince, hfirst]
      exact ⟨streakBounds_start thresholds _, rfl⟩
    · rw [hsince, hfirst]
      exact ⟨hbounds, rfl⟩
  refine ⟨?_, _, _, rfl, rfl, streakBounds_streakStart hbounds.1 sample.progressObservedAt, hbounds.2,
    fun hhung => ?_⟩
  · split
    · rfl
    · split <;> rfl
  · rw [if_pos hhung]

private theorem zeroTrafficSignal_kept (thresholds : EfaThresholds) (working : EfaWorkingState) (sample : EfaSample) :
    (zeroTrafficSignal thresholds working sample).1.firstObservedAt = working.firstObservedAt ∧
      (zeroTrafficSignal thresholds working sample).1.hadActive = working.hadActive := by
  unfold zeroTrafficSignal
  dsimp only
  split
  · exact ⟨rfl, rfl⟩
  · exact ⟨rfl, rfl⟩

private theorem activeTrafficSignal_kept (thresholds : EfaThresholds) (working : EfaWorkingState) (rate : ℚ) :
    (activeTrafficSignal thresholds working rate).1.firstObservedAt = working.firstObservedAt ∧
      (activeTrafficSignal thresholds working rate).1.hadActive =
        (working.hadActive || decide (thresholds.minimumActiveBps ≤ rate)) ∧
      (activeTrafficSignal thresholds working rate).1.zeroSince = none ∧
      (activeTrafficSignal thresholds working rate).1.zeroFirstSeenAt = none ∧
      (activeTrafficSignal thresholds working rate).2.low = false := by
  unfold activeTrafficSignal
  dsimp only
  cases working.baseline with
  | none =>
    dsimp only
    split
    · rename_i hle
      simp [hle, EfaWorkingState.withoutStreak, EfaTrafficSignal.low]
    · rename_i hnot
      simp [hnot, EfaWorkingState.withoutStreak, EfaTrafficSignal.low]
  | some baseline =>
    refine ⟨rfl, rfl, rfl, rfl, ?_⟩
    dsimp only
    split
    · rfl
    · split
      · rfl
      · split <;> rfl

/-! #### The branches together -/

private theorem sampleSignal_firstObservedAt : (sampleSignal thresholds previous sample).1.firstObservedAt =
    previous.elim sample.observedAt (·.firstObservedAt) := by
  unfold sampleSignal
  dsimp only
  split
  · exact gapChecked_firstObservedAt
  · split
    · exact (zeroTrafficSignal_kept _ _ sample).1.trans gapChecked_firstObservedAt
    · exact (activeTrafficSignal_kept _ _ sample.bytesPerSecond).1.trans gapChecked_firstObservedAt

/-- Whether a sample shows traffic of a running attempt. -/
def EfaSample.active (thresholds : EfaThresholds) (sample : EfaSample) : Prop :=
  sample.observationValid = true ∧ thresholds.zeroBps < sample.bytesPerSecond ∧
    thresholds.minimumActiveBps ≤ sample.bytesPerSecond

private theorem sampleSignal_hadActive (h : previous.any (·.hadActiveTraffic) = true ∨ sample.active thresholds) :
    (sampleSignal thresholds previous sample).1.hadActive = true := by
  unfold sampleSignal
  dsimp only
  split
  · rename_i hinvalid
    rcases h with h | ⟨hvalid, -⟩
    · exact gapChecked_hadActive.trans h
    · simp [hvalid] at hinvalid
  · split
    · rename_i hzero
      rcases h with h | ⟨-, hnot, -⟩
      · exact (zeroTrafficSignal_kept _ _ sample).2.trans (gapChecked_hadActive.trans h)
      · exact absurd hzero (not_le.mpr hnot)
    · rw [(activeTrafficSignal_kept _ _ sample.bytesPerSecond).2.1, gapChecked_hadActive, Bool.or_eq_true]
      exact h.imp_right fun hactive => decide_eq_true hactive.2.2

private theorem sampleSignal_streak (h : ∀ state, previous = some state →
    StreakInv thresholds state.zeroSince state.zeroFirstSeenAt state.observedAt ∧
      state.observedAt ≤ sample.observedAt) :
    StreakInv thresholds (sampleSignal thresholds previous sample).1.zeroSince
      (sampleSignal thresholds previous sample).1.zeroFirstSeenAt sample.observedAt := by
  have hchecked := gapChecked_streak h
  unfold sampleSignal
  dsimp only
  split
  · exact .inl ⟨rfl, rfl⟩
  · split
    · by_cases hstarted : (gapChecked thresholds previous sample).hadActive = true ∧
        thresholds.startupGraceSeconds ≤ sample.observedAt - (gapChecked thresholds previous sample).firstObservedAt
      · obtain ⟨-, since, firstSeen, hsince, hfirst, hbounds, -⟩ :=
          zeroTrafficSignal_started hstarted.1 hstarted.2 hchecked
        exact .inr ⟨since, firstSeen, hsince, hfirst, hbounds⟩
      · have hnot : (!((gapChecked thresholds previous sample).hadActive && decide (thresholds.startupGraceSeconds ≤
            sample.observedAt - (gapChecked thresholds previous sample).firstObservedAt))) = true := by
          rw [Bool.not_eq_true', Bool.eq_false_iff]
          intro hboth
          exact hstarted (by simpa using hboth)
        unfold zeroTrafficSignal
        dsimp only
        rw [if_pos hnot]
        exact hchecked
    · obtain ⟨-, -, hsince, hfirst, -⟩ := activeTrafficSignal_kept thresholds
        (gapChecked thresholds previous sample) sample.bytesPerSecond
      exact .inl ⟨hsince, hfirst⟩

private theorem nearZero_of_low (h : (sampleSignal thresholds previous sample).2.low = true) :
    sample.observationValid = true ∧ sample.bytesPerSecond ≤ thresholds.zeroBps := by
  unfold sampleSignal at h
  dsimp only at h
  split at h
  · cases h
  · rename_i hvalid
    split at h
    · rename_i hzero
      exact ⟨by simpa using hvalid, hzero⟩
    · rw [(activeTrafficSignal_kept _ _ sample.bytesPerSecond).2.2.2.2] at h
      cases h

private theorem sampleSignal_nearZero (hvalid : sample.observationValid = true)
    (hzero : sample.bytesPerSecond ≤ thresholds.zeroBps) (hactive : previous.any (·.hadActiveTraffic) = true)
    (hgrace : thresholds.startupGraceSeconds ≤
      sample.observedAt - previous.elim sample.observedAt (·.firstObservedAt))
    (h : ∀ state, previous = some state →
      StreakInv thresholds state.zeroSince state.zeroFirstSeenAt state.observedAt ∧
        state.observedAt ≤ sample.observedAt) :
    ZeroStreak thresholds (gapChecked thresholds previous sample) sample
      (sampleSignal thresholds previous sample) := by
  unfold sampleSignal
  dsimp only
  rw [hvalid]
  simp only [Bool.not_true, Bool.false_eq_true, if_false, hzero, if_true]
  refine zeroTrafficSignal_started (gapChecked_hadActive.trans hactive) ?_ (gapChecked_streak h)
  rw [gapChecked_firstObservedAt]
  exact hgrace

end Sample

/-! ### The episode -/

section Episode

variable {monitor : EfaMonitor} {previous : Option EfaTrafficState} {state : EfaTrafficState} {sample : EfaSample}
  {episode : EfaStallEpisode} {history : List EfaSample}

/-- A near-zero rate is below what ends an episode. -/
def ThresholdInv (monitor : EfaMonitor) (episode : EfaStallEpisode) : Prop :=
  monitor.policy.noiseFloorBps ≤ episode.recoveryThresholdBps ∧
    monitor.thresholds.zeroBps * 2 ≤ episode.recoveryThresholdBps

private theorem thresholdInv_openedEpisode : ThresholdInv monitor (openedEpisode monitor previous state) :=
  ⟨(le_max_right _ _).trans (le_max_left _ _), le_max_right _ _⟩

private theorem ThresholdInv.nearZero_lt (h : ThresholdInv monitor episode)
    (hzero : sample.bytesPerSecond ≤ monitor.thresholds.zeroBps) :
    sample.bytesPerSecond < episode.recoveryThresholdBps := by
  have hfloor := monitor.policy.noiseFloor_pos
  obtain ⟨hnoise, hdouble⟩ := h
  by_cases hpos : 0 < monitor.thresholds.zeroBps
  · linarith
  · linarith

/-- The recovery of an episode is counted over the last samples: all of them valid, at the threshold and close
together, from the instant the recovery is dated at. -/
def RecoveryStreak (policy : EfaRecoveryPolicy) (history : List EfaSample) (episode : EfaStallEpisode) : Prop :=
  ∃ earlier streak, history = earlier ++ streak ∧ streak.length = episode.recoverySamples ∧
    (∀ sample ∈ streak, sample.observationValid = true ∧ episode.recoveryThresholdBps ≤ sample.bytesPerSecond) ∧
    streak.IsChain (fun a b => b.observedAt - a.observedAt ≤ policy.maxGapSeconds) ∧
    episode.recoverySince = streak.head?.map (·.observedAt)

private theorem recoveryStreak_openedEpisode (policy : EfaRecoveryPolicy) (history : List EfaSample) :
    RecoveryStreak policy history (openedEpisode monitor previous state) :=
  ⟨history, [], by simp, rfl, by simp, .nil, rfl⟩

@[simp] theorem countedRecovery_threshold (policy : EfaRecoveryPolicy) (episode : EfaStallEpisode)
    (sample : EfaSample) (gap : ℚ) :
    (countedRecovery policy episode sample gap).recoveryThresholdBps = episode.recoveryThresholdBps := by
  unfold countedRecovery
  dsimp only
  split <;> split <;> rfl

@[simp] theorem countedRecovery_hungReported {policy : EfaRecoveryPolicy} {gap : ℚ} :
    (countedRecovery policy episode sample gap).hungReported = episode.hungReported := by
  unfold countedRecovery
  dsimp only
  split <;> split <;> rfl

/-- A sample continues the recovery, or is the first of a new one, or ends it. -/
private theorem countedRecovery_streak {policy : EfaRecoveryPolicy} {gap : ℚ}
    (h : RecoveryStreak policy history episode)
    (hgap : ∀ latest, history.getLast? = some latest → gap = sample.observedAt - latest.observedAt) :
    RecoveryStreak policy (history ++ [sample]) (countedRecovery policy episode sample gap) := by
  obtain ⟨earlier, streak, rfl, hlength, hgood, hchain, hsince⟩ := h
  by_cases hsample : sample.observationValid = true ∧ episode.recoveryThresholdBps ≤ sample.bytesPerSecond
  · obtain ⟨hvalid, hrate⟩ := hsample
    have hcounts : (sample.observationValid &&
        decide (episode.recoveryThresholdBps ≤ sample.bytesPerSecond)) = true := by
      simp [hvalid, hrate]
    by_cases hclose : gap ≤ policy.maxGapSeconds
    · -- the streak grows
      have hkept : (!sample.observationValid || decide (policy.maxGapSeconds < gap) ||
          decide (sample.bytesPerSecond < episode.recoveryThresholdBps)) = false := by
        simp [hvalid, not_lt.mpr hclose, not_lt.mpr hrate]
      refine ⟨earlier, streak ++ [sample], by simp, ?_, ?_, ?_, ?_⟩
      · simp [countedRecovery, hkept, hcounts, hlength]
      · intro other hother
        rw [countedRecovery_threshold]
        rcases List.mem_append.mp hother with hother | hother
        · exact hgood other hother
        · obtain rfl := List.mem_singleton.mp hother
          exact ⟨hvalid, hrate⟩
      · refine hchain.append (.singleton _) fun a ha b hb => ?_
        obtain rfl := Option.some.inj hb
        have hlast : (earlier ++ streak).getLast? = some a := by
          rw [List.getLast?_append, ha]
          rfl
        rw [← hgap a hlast]
        exact hclose
      · simp only [countedRecovery, hkept, hcounts, Bool.false_eq_true, if_false, if_true, hsince]
        cases streak with
        | nil => rfl
        | cons first streak => rfl
    · -- a gap: the streak starts with this sample
      have hreset : (!sample.observationValid || decide (policy.maxGapSeconds < gap) ||
          decide (sample.bytesPerSecond < episode.recoveryThresholdBps)) = true := by
        simp [not_le.mp hclose]
      refine ⟨earlier ++ streak, [sample], rfl, ?_, ?_, .singleton _, ?_⟩
      · simp [countedRecovery, hreset, hcounts]
      · intro other hother
        rw [countedRecovery_threshold]
        obtain rfl := List.mem_singleton.mp hother
        exact ⟨hvalid, hrate⟩
      · simp [countedRecovery, hreset, hcounts]
  · have hcounts : (sample.observationValid &&
        decide (episode.recoveryThresholdBps ≤ sample.bytesPerSecond)) = false := by
      rw [Bool.eq_false_iff]
      intro hboth
      exact hsample (by simpa using hboth)
    have hreset : (!sample.observationValid || decide (policy.maxGapSeconds < gap) ||
        decide (sample.bytesPerSecond < episode.recoveryThresholdBps)) = true := by
      by_cases hvalid : sample.observationValid = true
      · have hlow : sample.bytesPerSecond < episode.recoveryThresholdBps := by
          rw [← not_le]
          exact fun hrate => hsample ⟨hvalid, hrate⟩
        simp [hlow]
      · simp [hvalid]
    refine ⟨earlier ++ streak ++ [sample], [], by simp, ?_, by simp, .nil, ?_⟩
    · simp [countedRecovery, hreset, hcounts]
    · simp [countedRecovery, hreset, hcounts]

def sampleGap (previous : Option EfaTrafficState) (sample : EfaSample) : ℚ :=
  previous.elim 0 fun before => sample.observedAt - before.observedAt

/-- The three ends of `advance_episode`. -/
inductive EpisodeStep (monitor : EfaMonitor) (previous : Option EfaTrafficState) (state : EfaTrafficState)
    (sample : EfaSample) (out : EfaTrafficState × Bool) : Prop
  | absent (hnone : currentEpisode monitor previous state = none) (hepisode : out.1.stallEpisode = none)
    (hsignal : out.1.signal = state.signal) (hsuppress : out.2 = false)
  | ended {episode : EfaStallEpisode} (hsome : currentEpisode monitor previous state = some episode)
    (hcomplete : recoveryComplete monitor.policy
      (countedRecovery monitor.policy episode sample (sampleGap previous sample)) sample = true)
    (hepisode : out.1.stallEpisode = none) (hsignal : out.1.signal = .recovered) (hsuppress : out.2 = false)
  | open {episode : EfaStallEpisode} (hsome : currentEpisode monitor previous state = some episode)
    (hincomplete : recoveryComplete monitor.policy
      (countedRecovery monitor.policy episode sample (sampleGap previous sample)) sample = false)
    (hepisode : out.1.stallEpisode = some
      { countedRecovery monitor.policy episode sample (sampleGap previous sample) with
        hungReported := episode.hungReported || out.1.signal == .hungSuspected })
    (hsignal : out.1.signal = if state.signal = .recovered then .normal else state.signal)
    (hsuppress : out.2 = (out.1.signal == .hungSuspected && episode.hungReported))

private theorem advanceEpisode_step (monitor : EfaMonitor) (previous : Option EfaTrafficState)
    (state : EfaTrafficState) (sample : EfaSample) :
    EpisodeStep monitor previous state sample (advanceEpisode monitor previous state sample) := by
  cases hcurrent : currentEpisode monitor previous state with
  | none =>
    refine .absent hcurrent ?_ ?_ ?_ <;> simp [advanceEpisode, hcurrent]
  | some episode =>
    cases hcomplete : recoveryComplete monitor.policy
        (countedRecovery monitor.policy episode sample (sampleGap previous sample)) sample with
    | true =>
      have hsame : recoveryComplete monitor.policy (countedRecovery monitor.policy episode sample
          (previous.elim 0 fun before => sample.observedAt - before.observedAt)) sample = true := hcomplete
      refine .ended hcurrent hcomplete ?_ ?_ ?_ <;> simp [advanceEpisode, hcurrent, hsame]
    | false =>
      have hsame : recoveryComplete monitor.policy (countedRecovery monitor.policy episode sample
          (previous.elim 0 fun before => sample.observedAt - before.observedAt)) sample = false := hcomplete
      refine .open hcurrent hcomplete ?_ ?_ ?_ <;> simp [advanceEpisode, hcurrent, hsame, sampleGap]

private theorem advanceEpisode_kept (monitor : EfaMonitor) (previous : Option EfaTrafficState)
    (state : EfaTrafficState) (sample : EfaSample) :
    (advanceEpisode monitor previous state sample).1.identity = state.identity ∧
      (advanceEpisode monitor previous state sample).1.firstObservedAt = state.firstObservedAt ∧
      (advanceEpisode monitor previous state sample).1.observedAt = state.observedAt ∧
      (advanceEpisode monitor previous state sample).1.hadActiveTraffic = state.hadActiveTraffic ∧
      (advanceEpisode monitor previous state sample).1.zeroSince = state.zeroSince ∧
      (advanceEpisode monitor previous state sample).1.zeroFirstSeenAt = state.zeroFirstSeenAt := by
  unfold advanceEpisode
  dsimp only
  split
  · exact ⟨rfl, rfl, rfl, rfl, rfl, rfl⟩
  · split
    · exact ⟨rfl, rfl, rfl, rfl, rfl, rfl⟩
    · exact ⟨rfl, rfl, rfl, rfl, rfl, rfl⟩

private theorem workedState_kept (identity : EfaIdentity) (worked : EfaWorkingState × EfaTrafficSignal)
    (sample : EfaSample) :
    (workedState identity worked sample).firstObservedAt = worked.1.firstObservedAt ∧
      (workedState identity worked sample).hadActiveTraffic = worked.1.hadActive ∧
      (workedState identity worked sample).zeroSince = worked.1.zeroSince ∧
      (workedState identity worked sample).zeroFirstSeenAt = worked.1.zeroFirstSeenAt := by
  unfold workedState spikeFields
  dsimp only
  split
  · exact ⟨rfl, rfl, rfl, rfl⟩
  · split
    · exact ⟨rfl, rfl, rfl, rfl⟩
    · exact ⟨rfl, rfl, rfl, rfl⟩

end Episode

/-! ### The row and the samples behind it -/

section Rows

variable {monitor : EfaMonitor} {previous : Option EfaTrafficState} {sample : EfaSample} {history : List EfaSample}

/-- What the row says of the samples it was computed from. -/
structure EfaInv (monitor : EfaMonitor) (history : List EfaSample) (previous : Option EfaTrafficState) : Prop where
  identity : ∀ state, previous = some state → state.identity = monitor.identity
  first : previous.map (·.firstObservedAt) = history.head?.map (·.observedAt)
  last : previous.map (·.observedAt) = history.getLast?.map (·.observedAt)
  active : (∃ sample ∈ history, sample.active monitor.thresholds) → previous.any (·.hadActiveTraffic) = true
  streak : ∀ state, previous = some state →
    StreakInv monitor.thresholds state.zeroSince state.zeroFirstSeenAt state.observedAt
  stalled : ∀ state, previous = some state → state.signal.low = true → state.stallEpisode.isSome = true
  reported : ∀ state, previous = some state → state.signal = .hungSuspected →
    state.stallEpisode.any (·.hungReported) = true
  episode : ∀ state episode, previous = some state → state.stallEpisode = some episode →
    ThresholdInv monitor episode ∧ RecoveryStreak monitor.policy history episode

private theorem efaInv_nil (monitor : EfaMonitor) : EfaInv monitor [] none where
  identity _ h := by cases h
  first := rfl
  last := rfl
  active h := by simp at h
  streak _ h := by cases h
  stalled _ h := by cases h
  reported _ h := by cases h
  episode _ _ h := by cases h

/-- The sample is later than those behind the row. -/
def Later (previous : Option EfaTrafficState) (sample : EfaSample) : Prop :=
  ∀ state, previous = some state → state.observedAt < sample.observedAt

private theorem nextEfaTrafficState_eq (h : EfaInv monitor history previous) (hlater : Later previous sample) :
    nextEfaTrafficState monitor previous sample = nextEfaTrafficState.continued monitor sample previous := by
  cases previous with
  | none => rfl
  | some state =>
    have hbelongs : efaStateBelongsTo state monitor.identity = true := by
      simp [efaStateBelongsTo, h.identity state rfl]
    simp [nextEfaTrafficState, hlater state rfl, hbelongs]

/-- Whether the suspicion of the open episode has been reported. -/
def alreadyReported (previous : Option EfaTrafficState) : Bool :=
  (previous.bind (·.stallEpisode)).any (·.hungReported)

/-- The episode a sample is judged in is the open one, or a new one of which nothing has been reported. -/
private theorem currentEpisode_inv (h : EfaInv monitor history previous) {state : EfaTrafficState}
    {episode : EfaStallEpisode} (hcurrent : currentEpisode monitor previous state = some episode) :
    ThresholdInv monitor episode ∧ RecoveryStreak monitor.policy history episode ∧
      episode.hungReported = alreadyReported previous := by
  unfold currentEpisode at hcurrent
  cases hopen : previous.bind (·.stallEpisode) with
  | some current =>
    rw [hopen] at hcurrent
    obtain rfl := Option.some.inj hcurrent
    obtain ⟨row, hrow, hepisode⟩ := Option.bind_eq_some_iff.mp hopen
    obtain ⟨hthreshold, hstreak⟩ := h.episode row current hrow hepisode
    exact ⟨hthreshold, hstreak, by simp [alreadyReported, hopen]⟩
  | none =>
    rw [hopen] at hcurrent
    simp only [Option.none_or] at hcurrent
    split at hcurrent
    · obtain rfl := Option.some.inj hcurrent
      refine ⟨thresholdInv_openedEpisode, recoveryStreak_openedEpisode _ _, ?_⟩
      -- a row with a signal of a stall would have an episode
      have hlegacy : previous.filter (·.signal.low) = none := by
        rw [Option.filter_eq_none_iff]
        intro row hrow hlow
        have hsome := h.stalled row hrow hlow
        rw [hrow] at hopen
        simp only [Option.bind_some] at hopen
        rw [hopen] at hsome
        cases hsome
      simp [openedEpisode, hlegacy, alreadyReported, hopen]
    · cases hcurrent

private theorem gap_of_last (h : EfaInv monitor history previous) (sample latest : EfaSample)
    (hlatest : history.getLast? = some latest) :
    sampleGap previous sample = sample.observedAt - latest.observedAt := by
  have hlast := h.last
  rw [hlatest] at hlast
  obtain ⟨row, rfl, hrow⟩ := Option.map_eq_some_iff.mp hlast
  simp [sampleGap, hrow]

private theorem recoveryComplete_of_nearZero {episode : EfaStallEpisode} (h : ThresholdInv monitor episode)
    (hzero : sample.bytesPerSecond ≤ monitor.thresholds.zeroBps) (gap : ℚ) :
    recoveryComplete monitor.policy (countedRecovery monitor.policy episode sample gap) sample = false := by
  have hlow := h.nearZero_lt hzero
  simp [recoveryComplete, not_le.mpr hlow]

private theorem continued_step (monitor : EfaMonitor) (sample : EfaSample) (previous : Option EfaTrafficState) :
    ∃ suppress, EpisodeStep monitor previous
        (workedState monitor.identity (sampleSignal monitor.thresholds previous sample) sample) sample
        ((nextEfaTrafficState.continued monitor sample previous).1, suppress) ∧
      (nextEfaTrafficState.continued monitor sample previous).2 =
        ((nextEfaTrafficState.continued monitor sample previous).1.signal.emitted &&
          (nextEfaTrafficState.continued monitor sample previous).1.signal != previous.elim .warmup (·.signal) &&
          !suppress) :=
  ⟨_, advanceEpisode_step monitor previous _ sample, rfl⟩

private theorem continued_kept (monitor : EfaMonitor) (sample : EfaSample) (previous : Option EfaTrafficState) :
    (nextEfaTrafficState.continued monitor sample previous).1.identity = monitor.identity ∧
      (nextEfaTrafficState.continued monitor sample previous).1.firstObservedAt =
        previous.elim sample.observedAt (·.firstObservedAt) ∧
      (nextEfaTrafficState.continued monitor sample previous).1.observedAt = sample.observedAt ∧
      (nextEfaTrafficState.continued monitor sample previous).1.hadActiveTraffic =
        (sampleSignal monitor.thresholds previous sample).1.hadActive ∧
      (nextEfaTrafficState.continued monitor sample previous).1.zeroSince =
        (sampleSignal monitor.thresholds previous sample).1.zeroSince ∧
      (nextEfaTrafficState.continued monitor sample previous).1.zeroFirstSeenAt =
        (sampleSignal monitor.thresholds previous sample).1.zeroFirstSeenAt := by
  obtain ⟨hidentity, hfirst, hobserved, hactive, hsince, hseen⟩ := advanceEpisode_kept monitor previous
    (workedState monitor.identity (sampleSignal monitor.thresholds previous sample) sample) sample
  obtain ⟨hfirst', hactive', hsince', hseen'⟩ :=
    workedState_kept monitor.identity (sampleSignal monitor.thresholds previous sample) sample
  exact ⟨hidentity, hfirst.trans (hfirst'.trans sampleSignal_firstObservedAt), hobserved, hactive.trans hactive',
    hsince.trans hsince', hseen.trans hseen'⟩

/-- The signal of a stall is the signal of the row, and the row has an episode. -/
private theorem continued_low (h : EfaInv monitor history previous)
    (hlow : (sampleSignal monitor.thresholds previous sample).2.low = true) :
    (nextEfaTrafficState.continued monitor sample previous).1.signal =
        (sampleSignal monitor.thresholds previous sample).2 ∧
      (nextEfaTrafficState.continued monitor sample previous).1.stallEpisode.isSome = true := by
  obtain ⟨suppress, hstep, -⟩ := continued_step monitor sample previous
  have hsame : (workedState monitor.identity (sampleSignal monitor.thresholds previous sample) sample).signal =
      (sampleSignal monitor.thresholds previous sample).2 := rfl
  cases hstep with
  | absent hnone _ _ _ =>
    simp [currentEpisode, hsame, hlow] at hnone
  | ended hsome hcomplete _ _ _ =>
    rw [recoveryComplete_of_nearZero (currentEpisode_inv h hsome).1 (nearZero_of_low hlow).2] at hcomplete
    cases hcomplete
  | «open» hsome _ hepisode hsignal _ =>
    refine ⟨?_, by rw [hepisode]; rfl⟩
    rw [hsignal, hsame, if_neg]
    intro hrecovered
    rw [hrecovered] at hlow
    cases hlow

private theorem low_of_continued
    (hlow : (nextEfaTrafficState.continued monitor sample previous).1.signal.low = true) :
    (sampleSignal monitor.thresholds previous sample).2.low = true := by
  obtain ⟨suppress, hstep, -⟩ := continued_step monitor sample previous
  cases hstep with
  | absent _ _ hsignal _ =>
    rw [hsignal] at hlow
    exact hlow
  | ended _ _ _ hsignal _ =>
    rw [hsignal] at hlow
    cases hlow
  | «open» _ _ _ hsignal _ =>
    rw [hsignal] at hlow
    split at hlow
    · cases hlow
    · exact hlow

private theorem continued_reported (h : EfaInv monitor history previous)
    (hhung : (nextEfaTrafficState.continued monitor sample previous).1.signal = .hungSuspected) :
    (nextEfaTrafficState.continued monitor sample previous).1.stallEpisode.any (·.hungReported) = true := by
  have hlow : (nextEfaTrafficState.continued monitor sample previous).1.signal.low = true := by
    rw [hhung]
    rfl
  have hsome := (continued_low h (low_of_continued hlow)).2
  obtain ⟨suppress, hstep, -⟩ := continued_step monitor sample previous
  cases hstep with
  | absent _ hnone _ _ =>
    rw [hnone] at hsome
    cases hsome
  | ended _ _ hnone _ _ =>
    rw [hnone] at hsome
    cases hsome
  | «open» _ _ hopen _ _ =>
    rw [hopen, hhung]
    simp

private theorem continued_episode (h : EfaInv monitor history previous) {episode : EfaStallEpisode}
    (hepisode : (nextEfaTrafficState.continued monitor sample previous).1.stallEpisode = some episode) :
    ThresholdInv monitor episode ∧ RecoveryStreak monitor.policy (history ++ [sample]) episode := by
  obtain ⟨suppress, hstep, -⟩ := continued_step monitor sample previous
  cases hstep with
  | absent _ hnone _ _ =>
    rw [hnone] at hepisode
    cases hepisode
  | ended _ _ hnone _ _ =>
    rw [hnone] at hepisode
    cases hepisode
  | «open» hsome _ hopen _ _ =>
    rw [hopen] at hepisode
    obtain rfl := Option.some.inj hepisode
    obtain ⟨hthreshold, hstreak, -⟩ := currentEpisode_inv h hsome
    refine ⟨?_, countedRecovery_streak hstreak fun latest hlatest => gap_of_last h sample latest hlatest⟩
    unfold ThresholdInv
    dsimp only
    rw [countedRecovery_threshold]
    exact hthreshold

private theorem efaInv_continued (h : EfaInv monitor history previous) (hlater : Later previous sample) :
    EfaInv monitor (history ++ [sample]) (some (nextEfaTrafficState.continued monitor sample previous).1) := by
  obtain ⟨hidentity, hfirst, hobserved, hactive, hsince, hseen⟩ := continued_kept monitor sample previous
  refine ⟨?_, ?_, ?_, ?_, ?_, ?_, ?_, ?_⟩
  · intro state hstate
    obtain rfl := Option.some.inj hstate
    exact hidentity
  · have hbefore := h.first
    rw [Option.map_some, hfirst]
    cases history with
    | nil =>
      have hnone : previous = none := by simpa using hbefore
      rw [hnone]
      rfl
    | cons origin history =>
      obtain ⟨row, rfl, hstart⟩ := Option.map_eq_some_iff.mp hbefore
      exact congrArg some hstart
  · rw [List.getLast?_append]
    exact congrArg some hobserved
  · rintro ⟨other, hother, hshows⟩
    rw [Option.any_some, hactive]
    refine sampleSignal_hadActive ?_
    rcases List.mem_append.mp hother with hother | hother
    · exact .inl (h.active ⟨other, hother, hshows⟩)
    · obtain rfl := List.mem_singleton.mp hother
      exact .inr hshows
  · intro state hstate
    obtain rfl := Option.some.inj hstate
    rw [hobserved, hsince, hseen]
    exact sampleSignal_streak fun state hstate => ⟨h.streak state hstate, (hlater state hstate).le⟩
  · intro state hstate hlow
    obtain rfl := Option.some.inj hstate
    exact (continued_low h (low_of_continued hlow)).2
  · intro state hstate hhung
    obtain rfl := Option.some.inj hstate
    exact continued_reported h hhung
  · intro state episode hstate hepisode
    obtain rfl := Option.some.inj hstate
    exact continued_episode h hepisode

end Rows

/-! ### Runs of samples -/

def efaStep (monitor : EfaMonitor) (previous : Option EfaTrafficState) (sample : EfaSample) :
    Option EfaTrafficState :=
  some (nextEfaTrafficState monitor previous sample).1

/-- The rows after each sample, with whether the signal is emitted. -/
def efaTrace (monitor : EfaMonitor) : Option EfaTrafficState → List EfaSample → List (EfaTrafficState × Bool)
  | _, [] => []
  | previous, sample :: rest =>
    nextEfaTrafficState monitor previous sample ::
      efaTrace monitor (some (nextEfaTrafficState monitor previous sample).1) rest

/-- Each sample is later than those before it. -/
def InOrder (samples : List EfaSample) : Prop := samples.Pairwise fun a b => a.observedAt < b.observedAt

section Runs

variable {monitor : EfaMonitor} {previous : Option EfaTrafficState} {sample first : EfaSample}
  {history before during stretch : List EfaSample}

private theorem later_of_inOrder (h : EfaInv monitor history previous) (horder : InOrder (history ++ [sample])) :
    Later previous sample := by
  intro state hstate
  have hlast := h.last
  rw [hstate, Option.map_some] at hlast
  obtain ⟨latest, hlatest, hobserved⟩ := Option.map_eq_some_iff.mp hlast.symm
  rw [← hobserved]
  exact (List.pairwise_append.mp horder).2.2 latest (List.mem_of_getLast? hlatest) sample (List.mem_singleton.mpr rfl)

private theorem efaStep_eq (h : EfaInv monitor history previous) (horder : InOrder (history ++ [sample])) :
    efaStep monitor previous sample = some (nextEfaTrafficState.continued monitor sample previous).1 := by
  unfold efaStep
  rw [nextEfaTrafficState_eq h (later_of_inOrder h horder)]

private theorem efaInv_step (h : EfaInv monitor history previous) (horder : InOrder (history ++ [sample])) :
    EfaInv monitor (history ++ [sample]) (efaStep monitor previous sample) := by
  rw [efaStep_eq h horder]
  exact efaInv_continued h (later_of_inOrder h horder)

private theorem efaInv_run (monitor : EfaMonitor) (horder : InOrder history) :
    EfaInv monitor history (Run.exec (efaStep monitor) none history) := by
  induction history using List.reverseRecOn with
  | nil => exact efaInv_nil monitor
  | append_singleton history sample ih =>
    rw [Run.exec_append]
    exact efaInv_step (ih (List.pairwise_append.mp horder).1) horder

/-- A row whose stall was first seen by an instant. -/
def SeenBy (observedAt : ℚ) (row : EfaTrafficState) : Prop :=
  ∃ firstSeen, row.zeroFirstSeenAt = some firstSeen ∧ firstSeen ≤ observedAt

private theorem gapChecked_seenBy {thresholds : EfaThresholds} {row : EfaTrafficState} {observedAt : ℚ}
    (h : SeenBy observedAt row) (hgap : sample.observedAt - row.observedAt ≤ maxSampleGap thresholds) :
    (gapChecked thresholds (some row) sample).zeroFirstSeenAt.getD sample.observedAt ≤ observedAt := by
  obtain ⟨firstSeen, hseen, hle⟩ := h
  unfold gapChecked
  dsimp only
  rw [if_neg (by simpa using hgap)]
  simpa [EfaWorkingState.fromPrevious, hseen] using hle

/-- One near-zero sample of a stall that was first seen by `observedAt`: the row still says so, and once the limit and
the time to a suspicion have passed since then, the signal is the suspicion. -/
private theorem hung_of_seenBy (h : EfaInv monitor history previous) (horder : InOrder (history ++ [sample]))
    (hvalid : sample.observationValid = true) (hzero : sample.bytesPerSecond ≤ monitor.thresholds.zeroBps)
    (hactive : ∃ active ∈ history, active.active monitor.thresholds)
    (hgrace : ∃ origin, history.head? = some origin ∧
      monitor.thresholds.startupGraceSeconds ≤ sample.observedAt - origin.observedAt) {observedAt limit : ℚ}
    (hlimit : monitor.thresholds.progressSuppressionMaxSeconds = some limit)
    (hseen : (gapChecked monitor.thresholds previous sample).zeroFirstSeenAt.getD sample.observedAt ≤ observedAt) :
    ∃ row, efaStep monitor previous sample = some row ∧ SeenBy observedAt row ∧
      (observedAt + limit + monitor.thresholds.zeroHungSeconds ≤ sample.observedAt →
        row.signal = .hungSuspected) := by
  have hlater := later_of_inOrder h horder
  obtain ⟨origin, horigin, hgrace⟩ := hgrace
  have hfirst := h.first
  rw [horigin] at hfirst
  obtain ⟨row, hrow, hstart⟩ := Option.map_eq_some_iff.mp hfirst
  have hstarted : monitor.thresholds.startupGraceSeconds ≤
      sample.observedAt - previous.elim sample.observedAt (·.firstObservedAt) := by
    rw [hrow, Option.elim_some, hstart]
    exact hgrace
  have hzeroStreak := sampleSignal_nearZero hvalid hzero (h.active hactive) hstarted
    fun state hstate => ⟨h.streak state hstate, (hlater state hstate).le⟩
  obtain ⟨since, firstSeen, -, hfirstSeen, hbounds, hsame, hhung⟩ := hzeroStreak.bounds
  refine ⟨_, efaStep_eq h horder, ⟨firstSeen, ?_, hsame ▸ hseen⟩, fun hpassed => ?_⟩
  · exact (continued_kept monitor sample previous).2.2.2.2.2.trans hfirstSeen
  · rw [(continued_low h hzeroStreak.low).1]
    apply hhung
    have hsince := hbounds.limited limit hlimit
    have hle : firstSeen ≤ observedAt := hsame ▸ hseen
    linarith

/-- A run of valid near-zero samples without gaps, which starts with `first` after traffic was active and the startup
grace elapsed. -/
structure NearZeroRun (monitor : EfaMonitor) (before run : List EfaSample) (first : EfaSample) : Prop where
  head : run.head? = some first
  near : ∀ near ∈ run, near.observationValid = true ∧ near.bytesPerSecond ≤ monitor.thresholds.zeroBps
  spaced : run.IsChain fun a b => b.observedAt - a.observedAt ≤ maxSampleGap monitor.thresholds
  active : ∃ active ∈ before, active.active monitor.thresholds
  grace : ∃ origin, before.head? = some origin ∧
    monitor.thresholds.startupGraceSeconds ≤ first.observedAt - origin.observedAt

private theorem NearZeroRun.upTo {rest : List EfaSample}
    (h : NearZeroRun monitor before (stretch ++ [sample] ++ rest) first) :
    NearZeroRun monitor before (stretch ++ [sample]) first := by
  refine ⟨?_, fun near hnear => h.near near (List.mem_append_left _ hnear), h.spaced.left_of_append,
    h.active, h.grace⟩
  have hfirst := h.head
  cases stretch with
  | nil => exact hfirst
  | cons head stretch => exact hfirst

/-- The last sample of a run without gaps, when the stall was first seen by the first one. -/
private theorem hung_of_nearZeroRun_seen (h : NearZeroRun monitor before (stretch ++ [sample]) first)
    (horder : InOrder (before ++ stretch ++ [sample])) {limit : ℚ}
    (hlimit : monitor.thresholds.progressSuppressionMaxSeconds = some limit)
    (hseen : (gapChecked monitor.thresholds (Run.exec (efaStep monitor) none (before ++ stretch))
      sample).zeroFirstSeenAt.getD sample.observedAt ≤ first.observedAt) :
    ∃ row, Run.exec (efaStep monitor) none (before ++ stretch ++ [sample]) = some row ∧
      SeenBy first.observedAt row ∧
      (first.observedAt + limit + monitor.thresholds.zeroHungSeconds ≤ sample.observedAt →
        row.signal = .hungSuspected) := by
  have hinv : EfaInv monitor (before ++ stretch) (Run.exec (efaStep monitor) none (before ++ stretch)) :=
    efaInv_run monitor (List.pairwise_append.mp horder).1
  have hle : first.observedAt ≤ sample.observedAt := by
    have hfirst := h.head
    cases stretch with
    | nil =>
      obtain rfl := Option.some.inj hfirst
      exact le_rfl
    | cons head stretch =>
      obtain rfl := Option.some.inj hfirst
      exact ((List.pairwise_append.mp horder).2.2 head (by simp) sample (by simp)).le
  have hgrace : ∃ origin, (before ++ stretch).head? = some origin ∧
      monitor.thresholds.startupGraceSeconds ≤ sample.observedAt - origin.observedAt := by
    obtain ⟨origin, horigin, hgrace⟩ := h.grace
    exact ⟨origin, by rw [List.head?_append, horigin]; rfl, by linarith⟩
  have hactive : ∃ active ∈ before ++ stretch, active.active monitor.thresholds := by
    obtain ⟨active, hmem, hshows⟩ := h.active
    exact ⟨active, List.mem_append_left _ hmem, hshows⟩
  obtain ⟨hvalid, hzero⟩ := h.near sample (by simp)
  rw [Run.exec_append]
  exact hung_of_seenBy hinv horder hvalid hzero hactive hgrace hlimit hseen

/-- A run without gaps ends in a suspicion once the limit and the time to a suspicion have passed since its first
sample. -/
private theorem hung_of_nearZeroRun (h : NearZeroRun monitor before (stretch ++ [sample]) first)
    (horder : InOrder (before ++ stretch ++ [sample])) {limit : ℚ}
    (hlimit : monitor.thresholds.progressSuppressionMaxSeconds = some limit) :
    ∃ row, Run.exec (efaStep monitor) none (before ++ stretch ++ [sample]) = some row ∧
      SeenBy first.observedAt row ∧
      (first.observedAt + limit + monitor.thresholds.zeroHungSeconds ≤ sample.observedAt →
        row.signal = .hungSuspected) := by
  -- by induction on the run: each sample hands the instant the stall was first seen to the next
  induction stretch using List.reverseRecOn generalizing sample with
  | nil =>
    refine hung_of_nearZeroRun_seen h horder hlimit ?_
    have hinv : EfaInv monitor (before ++ []) (Run.exec (efaStep monitor) none (before ++ [])) :=
      efaInv_run monitor (List.pairwise_append.mp horder).1
    have hlater := later_of_inOrder hinv horder
    obtain rfl := Option.some.inj h.head
    have hstreak := gapChecked_streak fun state hstate => ⟨hinv.streak state hstate, (hlater state hstate).le⟩
    rcases hstreak with ⟨-, hseen⟩ | ⟨since, firstSeen, -, hseen, hbounds⟩
    · rw [hseen]
      exact le_rfl
    · rw [hseen]
      exact hbounds.firstSeen_le.trans hbounds.since_le
  | append_singleton stretch latest ih =>
    have horder' : InOrder (before ++ stretch ++ [latest]) := by
      have hsplit := (List.pairwise_append.mp horder).1
      rwa [← List.append_assoc] at hsplit
    obtain ⟨row, hrow, hseen, -⟩ := ih h.upTo horder'
    refine hung_of_nearZeroRun_seen h horder hlimit ?_
    rw [← List.append_assoc, hrow]
    refine gapChecked_seenBy hseen ?_
    have hobserved : row.observedAt = latest.observedAt := by
      have hlast := (efaInv_run monitor horder').last
      rw [hrow, List.getLast?_append] at hlast
      exact Option.some.inj hlast
    rw [hobserved]
    have hchain := h.spaced
    rw [List.append_assoc] at hchain
    have hpair := hchain.right_of_append
    simpa using hpair

/-! #### One report an episode -/

/-- A sample whose suspicion is emitted. -/
def emitsHung (out : EfaTrafficState × Bool) : Bool := out.2 && out.1.signal == .hungSuspected

/-- One sample inside an episode: it emits a suspicion when it is the first to have one, and the episode remembers. -/
private theorem continued_emits (h : EfaInv monitor history previous) (sample : EfaSample)
    (hopen : (nextEfaTrafficState.continued monitor sample previous).1.stallEpisode.isSome = true) :
    emitsHung (nextEfaTrafficState.continued monitor sample previous) =
        ((nextEfaTrafficState.continued monitor sample previous).1.signal == .hungSuspected &&
          !alreadyReported previous) ∧
      alreadyReported (some (nextEfaTrafficState.continued monitor sample previous).1) =
        (alreadyReported previous ||
          (nextEfaTrafficState.continued monitor sample previous).1.signal == .hungSuspected) := by
  obtain ⟨suppress, hstep, hemit⟩ := continued_step monitor sample previous
  cases hstep with
  | absent _ hnone _ _ =>
    rw [hnone] at hopen
    cases hopen
  | ended _ _ hnone _ _ =>
    rw [hnone] at hopen
    cases hopen
  | «open» hsome _ hepisode _ hsuppress =>
    obtain ⟨-, -, hreported⟩ := currentEpisode_inv h hsome
    dsimp only at hsuppress
    constructor
    · unfold emitsHung
      rw [hemit]
      by_cases hhung : (nextEfaTrafficState.continued monitor sample previous).1.signal = .hungSuspected
      · rw [hsuppress, hhung, hreported]
        cases hknown : alreadyReported previous with
        | true => simp
        | false =>
          -- a row with a suspicion would have reported it
          have hold : previous.elim .warmup (·.signal) ≠ EfaTrafficSignal.hungSuspected := by
            intro hold
            cases previous with
            | none => cases hold
            | some row =>
              have hrow := h.reported row rfl hold
              rw [alreadyReported, Option.bind_some, hrow] at hknown
              cases hknown
          simp [EfaTrafficSignal.emitted, hold.symm]
      · have hother : ((nextEfaTrafficState.continued monitor sample previous).1.signal == .hungSuspected) = false :=
          beq_false_of_ne hhung
        rw [hother]
        simp
    · rw [alreadyReported, Option.bind_some, hepisode, Option.any_some, hreported]

/-- Within an episode the suspicion is emitted once if it is reached at all, and not again once it was. -/
private theorem emitted_once (h : EfaInv monitor history previous) (horder : InOrder (history ++ during))
    (hopen : ∀ out ∈ efaTrace monitor previous during, out.1.stallEpisode.isSome = true) :
    (efaTrace monitor previous during).countP emitsHung =
      if alreadyReported previous then 0
      else if (efaTrace monitor previous during).any (fun out => out.1.signal == .hungSuspected) then 1 else 0 := by
  induction during generalizing history previous with
  | nil => simp [efaTrace]
  | cons sample during ih =>
    have hsplit : history ++ sample :: during = history ++ [sample] ++ during := by simp
    rw [hsplit] at horder
    have horder' := (List.pairwise_append.mp horder).1
    have hlater := later_of_inOrder h horder'
    have hnext := nextEfaTrafficState_eq h hlater
    obtain ⟨hemits, hreported⟩ := continued_emits h sample
      (by rw [← hnext]; exact hopen _ List.mem_cons_self)
    have hrest := ih (efaInv_continued h hlater) horder fun out hout =>
      hopen out (by rw [efaTrace, hnext]; exact List.mem_cons_of_mem _ hout)
    rw [efaTrace, hnext, List.countP_cons, hrest, hemits, hreported, List.any_cons]
    cases alreadyReported previous with
    | true => simp
    | false =>
      cases (nextEfaTrafficState.continued monitor sample previous).1.signal == .hungSuspected with
      | true => simp
      | false => rfl

/-! #### The end of an episode -/

private theorem episode_ends (h : EfaInv monitor history previous) {row : EfaTrafficState} {episode : EfaStallEpisode}
    (hrow : previous = some row) (hepisode : row.stallEpisode = some episode)
    (hended : (nextEfaTrafficState.continued monitor sample previous).1.stallEpisode = none) :
    ∃ earlier streak first, history ++ [sample] = earlier ++ streak ∧ streak.head? = some first ∧
      monitor.policy.minimumSamples ≤ streak.length ∧
      (∀ good ∈ streak, good.observationValid = true ∧ episode.recoveryThresholdBps ≤ good.bytesPerSecond) ∧
      streak.IsChain (fun a b => b.observedAt - a.observedAt ≤ monitor.policy.maxGapSeconds) ∧
      monitor.policy.sustainedSeconds ≤ sample.observedAt - first.observedAt := by
  have hcurrent : currentEpisode monitor previous
      (workedState monitor.identity (sampleSignal monitor.thresholds previous sample) sample) = some episode := by
    simp [currentEpisode, hrow, hepisode]
  obtain ⟨suppress, hstep, -⟩ := continued_step monitor sample previous
  cases hstep with
  | absent hnone _ _ _ =>
    rw [hcurrent] at hnone
    cases hnone
  | ended hsome hcomplete _ _ _ =>
    obtain rfl := Option.some.inj (hcurrent.symm.trans hsome)
    have hcounted := countedRecovery_streak (currentEpisode_inv h hcurrent).2.1 fun latest hlatest =>
      gap_of_last h sample latest hlatest
    obtain ⟨earlier, streak, hhistory, hlength, hgood, hchain, hsince⟩ := hcounted
    simp only [recoveryComplete, Bool.and_eq_true, decide_eq_true_eq, hsince] at hcomplete
    obtain ⟨⟨-, hsamples⟩, hsustained⟩ := hcomplete
    obtain ⟨since, hstart, hlong⟩ := (Option.any_eq_true _ _).mp hsustained
    obtain ⟨first, hfirst, rfl⟩ := Option.map_eq_some_iff.mp hstart
    refine ⟨earlier, streak, first, hhistory, hfirst, hlength ▸ hsamples, fun good hmem => ?_, hchain, ?_⟩
    · rw [← countedRecovery_threshold monitor.policy episode sample (sampleGap previous sample)]
      exact hgood good hmem
    · simpa using hlong
  | «open» _ _ hsome _ _ =>
    rw [hended] at hsome
    cases hsome

/-- For every sequence of later samples of one attempt: a run of near-zero samples has the suspicion of a hang from
the time on that the suppression limit and the time to a suspicion allow, whatever progress is reported; an episode
emits the suspicion once if it is reached; and an episode ends only on a long enough streak of samples at its
threshold. -/
theorem efa_stall_detection_bounded (monitor : EfaMonitor) {samples : List EfaSample} (horder : InOrder samples) :
    (∀ before run after first limit, samples = before ++ run ++ after → NearZeroRun monitor before run first →
      monitor.thresholds.progressSuppressionMaxSeconds = some limit →
      ∀ stretch sample rest, run = stretch ++ sample :: rest →
        first.observedAt + limit + monitor.thresholds.zeroHungSeconds ≤ sample.observedAt →
        ∃ row, Run.exec (efaStep monitor) none (before ++ stretch ++ [sample]) = some row ∧
          row.signal = .hungSuspected) ∧
    (∀ before during after, samples = before ++ during ++ after →
      (Run.exec (efaStep monitor) none before).bind (·.stallEpisode) = none →
      (∀ out ∈ efaTrace monitor (Run.exec (efaStep monitor) none before) during, out.1.stallEpisode.isSome = true) →
      (efaTrace monitor (Run.exec (efaStep monitor) none before) during).countP emitsHung =
        if (efaTrace monitor (Run.exec (efaStep monitor) none before) during).any
          (fun out => out.1.signal == .hungSuspected) then 1 else 0) ∧
    ∀ before sample after row episode, samples = before ++ sample :: after →
      Run.exec (efaStep monitor) none before = some row → row.stallEpisode = some episode →
      (efaStep monitor (some row) sample).bind (·.stallEpisode) = none →
      ∃ earlier streak first, before ++ [sample] = earlier ++ streak ∧ streak.head? = some first ∧
        monitor.policy.minimumSamples ≤ streak.length ∧
        (∀ good ∈ streak, good.observationValid = true ∧ episode.recoveryThresholdBps ≤ good.bytesPerSecond) ∧
        streak.IsChain (fun a b => b.observedAt - a.observedAt ≤ monitor.policy.maxGapSeconds) ∧
        monitor.policy.sustainedSeconds ≤ sample.observedAt - first.observedAt := by
  refine ⟨?_, ?_, ?_⟩
  · rintro before run after first limit rfl hrun hlimit stretch sample rest rfl hpassed
    have hsplit :
        before ++ (stretch ++ sample :: rest) ++ after = before ++ stretch ++ [sample] ++ (rest ++ after) := by
      simp
    rw [hsplit] at horder
    have hrun' : NearZeroRun monitor before (stretch ++ [sample] ++ rest) first := by simpa using hrun
    obtain ⟨row, hrow, -, hhung⟩ := hung_of_nearZeroRun hrun'.upTo (List.pairwise_append.mp horder).1 hlimit
    exact ⟨row, hrow, hhung hpassed⟩
  · rintro before during after rfl hnone hopen
    have horder' := (List.pairwise_append.mp horder).1
    have hinv := efaInv_run monitor (List.pairwise_append.mp horder').1
    have hcount := emitted_once hinv horder' hopen
    rwa [alreadyReported, hnone, Option.any_none, if_neg Bool.false_ne_true] at hcount
  · rintro before sample after row episode rfl hrow hepisode hended
    have hsplit : before ++ sample :: after = before ++ [sample] ++ after := by simp
    rw [hsplit] at horder
    have horder' := (List.pairwise_append.mp horder).1
    have hinv := efaInv_run monitor (List.pairwise_append.mp horder').1
    rw [← hrow, efaStep_eq hinv horder', Option.bind_some] at hended
    exact episode_ends hinv hrow hepisode hended

private def watchedAttempt : EfaMonitor where
  thresholds :=
    { minimumActiveBps := 1000
      spikeRatio := 3
      dropRatio := 1 / 10
      zeroBps := 100
      zeroWarningSeconds := 60
      zeroHungSeconds := 120
      baselineAlpha := 1 / 10
      startupGraceSeconds := 30
      progressSuppressionMaxSeconds := some 60
      suppression_pos := by
        intro limit hlimit
        obtain rfl := Option.some.inj hlimit
        norm_num }
  identity :=
    { stateKey := "west/node-7"
      clusterId := "west"
      nodeId := "node-7"
      jobId := "job-1"
      attemptId := "attempt-1" }
  sha256 := fun text => text
  isoformat := fun _ => "1970-01-01T00:00:00+00:00"

private def rateAt (observedAt bytesPerSecond : ℚ) : EfaSample where
  observedAt := observedAt
  bytesPerSecond := bytesPerSecond
  progressObservedAt := some observedAt

private def busy : List EfaSample := [rateAt 0 5000, rateAt 60 5000]

private def stalled : List EfaSample := [rateAt 100 0, rateAt 200 0, rateAt 280 0]

/-- Every sample of the stall reports progress, and the suspicion still comes. -/
theorem stall_under_progress_is_hung :
    ∃ row, Run.exec (efaStep watchedAttempt) none (busy ++ [rateAt 100 0, rateAt 200 0] ++ [rateAt 280 0]) =
      some row ∧
      row.signal = .hungSuspected := by
  have horder : InOrder (busy ++ stalled ++ []) := by
    unfold InOrder
    decide +kernel
  have hrun : NearZeroRun watchedAttempt busy stalled (rateAt 100 0) := by
    refine ⟨rfl,
      by decide +kernel, by decide +kernel, ⟨rateAt 0 5000, List.mem_cons_self, ?_⟩, rateAt 0 5000, rfl, ?_⟩
    · unfold EfaSample.active
      decide +kernel
    · decide +kernel
  exact (efa_stall_detection_bounded watchedAttempt horder).1 busy stalled [] (rateAt 100 0) 60 rfl hrun rfl
    [rateAt 100 0, rateAt 200 0] (rateAt 280 0) [] rfl (by decide +kernel)

end Runs

end GpuFaultRecovery
