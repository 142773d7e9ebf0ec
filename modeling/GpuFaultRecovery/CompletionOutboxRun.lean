import GpuFaultRecovery.CompletionOutbox

/-!
# What leaves the completion outbox

A replace succeeds only on the log its call read, so what a write does to the log is what it does to the log it is
replaced on. A removal, however, goes by key, and a replay decides on a record of its snapshot: the record that an
expiry removes is the one it judged only if no other was buffered under the key since.
-/

namespace GpuFaultRecovery

/-- The key names the path the event was posted on. -/
def KeyedBy (key path : String) : Prop := ∃ owner : String, key = owner ++ "/" ++ lastSegment path

/-- What holds of every record: its key is its path's, and it is flagged as delivered only if its key was accepted. -/
structure RecordOk (accepted : List String) (item : OutboxRecord) : Prop where
  keyed : KeyedBy item.key item.path
  delivered : item.delivered = true → item.key ∈ accepted

/-- The event of a record, whatever was noted on it since. -/
structure SameEvent (item other : OutboxRecord) : Prop where
  key : item.key = other.key
  path : item.path = other.path
  payload : item.payload = other.payload
  bufferedAt : item.bufferedAt = other.bufferedAt

def WriteOk (config : OutboxConfig) (accepted : List String) (clock : Time) : LogWrite → Prop
  | .append event => KeyedBy event.key event.path
  | .upsert event => event.path = workloadObservationPath ∧ KeyedBy event.key event.path
  | .remove key .accepted => key ∈ accepted
  | .remove _ (.expired bufferedAt) => bufferedAt + config.maxRetryAge ≤ clock
  | .update key .delivered => key ∈ accepted
  | .update _ _ => True

/-! ### Keys -/

section Writes

variable {config : OutboxConfig} {accepted : List String} {clock now : Time} {log : List OutboxRecord}
  {item : OutboxRecord} {write : LogWrite} {key key' path : String} {payload : Details} {fuel i : Nat}

private theorem keyedBy_recordKey (h : recordKey path payload = some key) : KeyedBy key path := by
  unfold recordKey at h
  dsimp only at h
  split at h
  · cases h
  · cases h
    exact ⟨_, rfl⟩

private theorem getLast?_keyedBy (h : KeyedBy key path) (hne : (lastSegment path).toList ≠ []) :
    key.toList.getLast? = (lastSegment path).toList.getLast? := by
  obtain ⟨owner, rfl⟩ := h
  rw [String.toList_append, List.getLast?_append]
  cases hlast : (lastSegment path).toList.getLast? with
  | none => exact absurd (List.getLast?_eq_none_iff.mp hlast) hne
  | some c => rfl

private theorem key_ne_observation (hpath : path ∈ criticalCompletionPaths) (h : KeyedBy key path)
    (h' : KeyedBy key' workloadObservationPath) : key ≠ key' := by
  rintro rfl
  have hlast := getLast?_keyedBy h' (by decide +kernel)
  rcases List.mem_cons.mp hpath with rfl | hpath
  · rw [getLast?_keyedBy h (by decide +kernel)] at hlast
    exact absurd hlast (by decide +kernel)
  · rw [List.mem_singleton.mp hpath] at h
    rw [getLast?_keyedBy h (by decide +kernel)] at hlast
    exact absurd hlast (by decide +kernel)

/-! ### Writes -/

private theorem oldestQuarantined_spec (h : oldestQuarantined log = some i) :
    ∃ victim, log[i]? = some victim ∧ victim.quarantined = true := by
  unfold oldestQuarantined at h
  obtain ⟨entry, hentry, rfl⟩ := Option.map_eq_some_iff.mp h
  obtain ⟨hmem, hquarantined⟩ := List.mem_filter.mp (List.argmin_mem hentry)
  exact ⟨entry.1, List.mem_zipIdx_iff_getElem?.mp hmem, hquarantined⟩

/-- Only quarantined records are evicted. -/
private theorem evict_spec (fuel : Nat) (log : List OutboxRecord) :
    (∀ item ∈ evictQuarantinedForRoom config fuel log, item ∈ log) ∧
      ∀ item ∈ log, item.quarantined = false → item ∈ evictQuarantinedForRoom config fuel log := by
  induction fuel generalizing log with
  | zero => exact ⟨fun _ => id, fun _ h _ => h⟩
  | succ fuel ih =>
    unfold evictQuarantinedForRoom
    split
    · exact ⟨fun _ => id, fun _ h _ => h⟩
    · split
      · exact ⟨fun _ => id, fun _ h _ => h⟩
      · rename_i victim hvictim
        obtain ⟨old, hold, hquarantined⟩ := oldestQuarantined_spec hvictim
        obtain ⟨hsub, hkeep⟩ := ih (log.eraseIdx victim)
        refine ⟨fun item hitem => List.mem_of_mem_eraseIdx (hsub item hitem), fun item hitem hlive => ?_⟩
        refine hkeep item (List.mem_eraseIdx_iff_getElem?.mpr ?_) hlive
        obtain ⟨j, hj⟩ := List.mem_iff_getElem?.mp hitem
        refine ⟨j, fun heq => ?_, hj⟩
        rw [heq, hold] at hj
        cases hj
        rw [hquarantined] at hlive
        cases hlive

private theorem sameEvent_refl (item : OutboxRecord) : SameEvent item item := ⟨rfl, rfl, rfl, rfl⟩

theorem sameEvent_apply (fields : RecordUpdate) (item : OutboxRecord) : SameEvent (fields.apply item) item := by
  cases fields <;> exact ⟨rfl, rfl, rfl, rfl⟩

/-- How a critical record can leave the log with a write. -/
private theorem kept_rewritten (hwrite : WriteOk config accepted clock write) (hitem : item ∈ log)
    (hcritical : item.critical = true) (hok : RecordOk accepted item) :
    (∃ later ∈ rewritten config now log write, SameEvent later item) ∨
      (∃ event, write = .append event ∧ item.quarantined = true) ∨ ∃ reason, write = .remove item.key reason := by
  cases write with
  | append event =>
    cases hquarantined : item.quarantined with
    | true => exact .inr (.inl ⟨event, rfl, rfl⟩)
    | false =>
      refine .inl ⟨item, ?_, sameEvent_refl item⟩
      unfold rewritten
      dsimp only
      split
      · exact hitem
      · exact (evict_spec _ _).2 item (List.mem_append_left _ hitem) hquarantined
  | upsert event =>
    obtain ⟨hpath, hkeyed⟩ := hwrite
    rw [hpath] at hkeyed
    have hne : item.key ≠ event.key := by
      refine key_ne_observation ?_ hok.keyed hkeyed
      simpa [OutboxRecord.critical] using hcritical
    refine .inl ⟨item, List.mem_append_left _ (List.mem_filter.mpr ⟨hitem, ?_⟩), sameEvent_refl item⟩
    simpa using hne
  | remove key reason =>
    by_cases hkey : item.key = key
    · exact .inr (.inr ⟨reason, by rw [hkey]⟩)
    · refine .inl ⟨item, List.mem_filter.mpr ⟨hitem, ?_⟩, sameEvent_refl item⟩
      simpa using hkey
  | update key fields =>
    by_cases hkey : item.key = key
    · refine .inl ⟨fields.apply item, List.mem_map.mpr ⟨item, hitem, ?_⟩, sameEvent_apply fields item⟩
      rw [if_pos hkey]
    · refine .inl ⟨item, List.mem_map.mpr ⟨item, hitem, ?_⟩, sameEvent_refl item⟩
      rw [if_neg hkey]

/-- A write leaves every record with its own key, and flags only what was accepted. -/
private theorem recordOk_rewritten (hlog : ∀ item ∈ log, RecordOk accepted item)
    (hwrite : WriteOk config accepted clock write) :
    ∀ item ∈ rewritten config now log write, RecordOk accepted item := by
  intro item hitem
  cases write with
  | append event =>
    unfold rewritten at hitem
    dsimp only at hitem
    split at hitem
    · exact hlog item hitem
    · rcases List.mem_append.mp ((evict_spec _ _).1 item hitem) with hold | hnew
      · exact hlog item hold
      · rw [List.mem_singleton.mp hnew]
        exact ⟨hwrite, fun h => Bool.noConfusion h⟩
  | upsert event =>
    rcases List.mem_append.mp hitem with hold | hnew
    · exact hlog item (List.mem_filter.mp hold).1
    · rw [List.mem_singleton.mp hnew]
      exact ⟨hwrite.2, fun h => Bool.noConfusion h⟩
  | remove key reason => exact hlog item (List.mem_filter.mp hitem).1
  | update key fields =>
    obtain ⟨old, hold, rfl⟩ := List.mem_map.mp hitem
    split
    · rename_i hkey
      have hevent := sameEvent_apply fields old
      refine ⟨?_, fun hdelivered => ?_⟩
      · rw [hevent.key, hevent.path]
        exact (hlog old hold).keyed
      · cases fields with
        | delivered =>
          rw [hevent.key, hkey]
          exact hwrite
        | retried attempts verdicts => exact (hlog old hold).delivered hdelivered
        | rejected attempts verdicts => exact (hlog old hold).delivered hdelivered
    · exact hlog old hold

end Writes

/-! ### Calls -/

/-- What a call relies on for the rest of its way after a write. -/
def AfterWriteOk (accepted : List String) : AfterWrite → Prop
  | .deliver event => KeyedBy event.key event.path
  | .cleared key => key ∈ accepted
  | .finish => True
  | .replay rest => ∀ item ∈ rest, RecordOk accepted item

def AfterDeliveryOk (accepted : List String) (event : OutboxEvent) : AfterDelivery → Prop
  | .unbuffered => True
  | .clear => True
  | .observed => event.path = workloadObservationPath
  | .record item rest => item.key = event.key ∧ ∀ other ∈ rest, RecordOk accepted other

/-- What a call relies on. Its replace is of the log it read as long as the version is the one it read. -/
def PhaseOk (config : OutboxConfig) (w : OutboxWorld) : OutboxPhase → Prop
  | .idle => True
  | .reading write _ next => WriteOk config w.accepted w.clock write ∧ AfterWriteOk w.accepted next
  | .replacing write _ updated version next =>
    WriteOk config w.accepted w.clock write ∧ AfterWriteOk w.accepted next ∧ config.Fits updated ∧
      version ≤ w.version ∧
      (version = w.version → ∃ now, updated = rewritten config now w.log write)
  | .delivering event next => KeyedBy event.key event.path ∧ AfterDeliveryOk w.accepted event next

structure OutboxInv (config : OutboxConfig) (w : OutboxWorld) : Prop where
  records : ∀ item ∈ w.log, RecordOk w.accepted item
  calls : ∀ call, PhaseOk config w (w.calls call)

section Calls

variable {config : OutboxConfig} {accepted accepted' : List String} {clock clock' : Time} {w w' : OutboxWorld}
  {write : LogWrite} {next : AfterWrite} {delivery : AfterDelivery} {event : OutboxEvent} {item : OutboxRecord}
  {rest : List OutboxRecord} {phase : OutboxPhase} {attempt : Nat} {key : String}

private theorem RecordOk.mono (h : RecordOk accepted item) (hmore : accepted ⊆ accepted') : RecordOk accepted' item :=
  ⟨h.keyed, fun hdelivered => hmore (h.delivered hdelivered)⟩

private theorem WriteOk.mono (h : WriteOk config accepted clock write) (hmore : accepted ⊆ accepted')
    (hclock : clock ≤ clock') :
    WriteOk config accepted' clock' write := by
  cases write with
  | append event => exact h
  | upsert event => exact h
  | remove key reason =>
    cases reason with
    | accepted => exact hmore h
    | expired bufferedAt => exact le_trans h hclock
  | update key fields =>
    cases fields with
    | delivered => exact hmore h
    | retried attempts verdicts => trivial
    | rejected attempts verdicts => trivial

private theorem AfterWriteOk.mono (h : AfterWriteOk accepted next) (hmore : accepted ⊆ accepted') :
    AfterWriteOk accepted' next := by
  cases next with
  | deliver event => exact h
  | cleared key => exact hmore h
  | finish => trivial
  | replay rest => exact fun item hitem => (h item hitem).mono hmore

private theorem AfterDeliveryOk.mono (h : AfterDeliveryOk accepted event delivery) (hmore : accepted ⊆ accepted') :
    AfterDeliveryOk accepted' event delivery := by
  cases delivery with
  | unbuffered => trivial
  | clear => trivial
  | observed => exact h
  | record item rest => exact ⟨h.1, fun other hother => (h.2 other hother).mono hmore⟩

private theorem PhaseOk.mono (h : PhaseOk config w phase) (hmore : w.accepted ⊆ w'.accepted)
    (hclock : w.clock ≤ w'.clock) (hlog : w'.version = w.version ∧ w'.log = w.log ∨ w.version < w'.version) :
    PhaseOk config w' phase := by
  cases phase with
  | idle => trivial
  | reading write attempt next => exact ⟨h.1.mono hmore hclock, h.2.mono hmore⟩
  | replacing write attempt updated version next =>
    obtain ⟨hwrite, hnext, hfits, hversion, hread⟩ := h
    refine ⟨hwrite.mono hmore hclock, hnext.mono hmore, hfits, ?_, fun heq => ?_⟩
    · rcases hlog with ⟨hsame, -⟩ | hlater
      · rw [hsame]
        exact hversion
      · exact le_trans hversion hlater.le
    · rcases hlog with ⟨hsame, hstays⟩ | hlater
      · rw [hstays]
        exact hread (heq.trans hsame)
      · exact absurd (heq ▸ hversion) (not_le.mpr hlater)
  | delivering event next => exact ⟨h.1, h.2.mono hmore⟩

private theorem phaseOk_replayNext (h : ∀ item ∈ rest, RecordOk w.accepted item) :
    PhaseOk config w (OutboxWorld.replayNext rest) := by
  unfold OutboxWorld.replayNext
  split
  · trivial
  · rename_i item rest
    have hitem := h item List.mem_cons_self
    have hrest : ∀ other ∈ rest, RecordOk w.accepted other :=
      fun other hother => h other (List.mem_cons_of_mem _ hother)
    split
    · rename_i hdelivered
      exact ⟨hitem.delivered hdelivered, hrest⟩
    · exact ⟨hitem.keyed, rfl, hrest⟩

private theorem phaseOk_written (h : AfterWriteOk w.accepted next) : PhaseOk config w (OutboxWorld.written next) := by
  cases next with
  | deliver event => exact ⟨h, trivial⟩
  | cleared key => trivial
  | finish => trivial
  | replay rest => exact phaseOk_replayNext h

private theorem phaseOk_raised (h : AfterWriteOk w.accepted next) : PhaseOk config w (OutboxWorld.raised next) := by
  cases next with
  | deliver event => exact ⟨h, trivial⟩
  | cleared key => exact ⟨h, trivial⟩
  | finish => trivial
  | replay rest => trivial

private theorem phaseOk_readLog (hwrite : WriteOk config w.accepted w.clock write)
    (hnext : AfterWriteOk w.accepted next) :
    PhaseOk config w (w.readLog config write attempt next) := by
  unfold OutboxWorld.readLog
  dsimp only
  split
  · split
    · trivial
    · exact phaseOk_written hnext
  · split
    · rename_i hfits
      exact ⟨hwrite, hnext, hfits, le_rfl, fun _ => ⟨w.clock, rfl⟩⟩
    · exact phaseOk_raised hnext

private theorem phaseOk_replayFailure (retryable : Bool) (verdicts : Details)
    (hrest : ∀ other ∈ rest, RecordOk w.accepted other) :
    PhaseOk config w (w.replayFailure config item rest retryable verdicts) := by
  unfold OutboxWorld.replayFailure
  split
  · exact ⟨trivial, hrest⟩
  · split
    · exact ⟨trivial, hrest⟩
    · rename_i hold
      refine ⟨?_, hrest⟩
      simp only [Bool.or_eq_true, decide_eq_true_eq, not_or, not_lt] at hold
      exact Int.add_le_of_le_sub_left hold.2

theorem goTo_calls (call : Nat) (phase : OutboxPhase) (other : Nat) :
    (w.goTo call phase).calls other = if other = call then phase else w.calls other := rfl

private theorem OutboxInv.goTo (h : OutboxInv config w) (call : Nat) (hphase : PhaseOk config w phase) :
    OutboxInv config (w.goTo call phase) := by
  refine ⟨h.records, fun other => ?_⟩
  rw [goTo_calls]
  split
  · exact hphase.mono (List.Subset.refl _) le_rfl (.inl ⟨rfl, rfl⟩)
  · exact (h.calls other).mono (List.Subset.refl _) le_rfl (.inl ⟨rfl, rfl⟩)

private theorem OutboxInv.accept (h : OutboxInv config w) (key : String) : OutboxInv config (w.accept key) := by
  have hmore : w.accepted ⊆ (w.accept key).accepted := List.subset_cons_self _ _
  exact ⟨fun item hitem => (h.records item hitem).mono hmore,
    fun call => (h.calls call).mono hmore le_rfl (.inl ⟨rfl, rfl⟩)⟩

private theorem OutboxInv.replaced {updated : List OutboxRecord} {call : Nat} (h : OutboxInv config w)
    (hcall : w.calls call = .replacing write attempt updated w.version next) :
    OutboxInv config ({ w with log := updated, version := w.version + 1 }.goTo call (OutboxWorld.written next)) := by
  have hphase := h.calls call
  rw [hcall] at hphase
  obtain ⟨hwrite, hnext, -, -, hread⟩ := hphase
  obtain ⟨now, rfl⟩ := hread rfl
  refine ⟨recordOk_rewritten h.records hwrite, fun other => ?_⟩
  rw [goTo_calls]
  split
  · exact phaseOk_written hnext
  · exact (h.calls other).mono (List.Subset.refl _) le_rfl (.inr (Nat.lt_succ_self _))

/-! ### Steps -/

def ReplacesLog (w : OutboxWorld) (step : OutboxStep) (write : LogWrite) : Prop :=
  ∃ call attempt updated next, step = .replace call .replaced ∧
    w.calls call = .replacing write attempt updated w.version next

theorem ReplacesLog.log {step : OutboxStep} (h : OutboxInv config w) (hwrite : ReplacesLog w step write) :
    (∃ now, (outboxStep config w step).log = rewritten config now w.log write) ∧
      config.Fits (outboxStep config w step).log ∧ WriteOk config w.accepted w.clock write := by
  obtain ⟨call, attempt, updated, next, rfl, hcall⟩ := hwrite
  have hphase := h.calls call
  rw [hcall] at hphase
  obtain ⟨hok, -, hfits, -, hread⟩ := hphase
  have hlog : (outboxStep config w (.replace call .replaced)).log = updated := by
    dsimp only [outboxStep]
    rw [hcall]
    dsimp only
    rw [if_pos ⟨rfl, rfl⟩]
    rfl
  rw [hlog]
  exact ⟨hread rfl, hfits, hok⟩

theorem outboxInv_post (h : OutboxInv config w) (call : Nat) (path : String) (payload : Details) :
    OutboxInv config (outboxStep config w (.post call path payload)) ∧
      (outboxStep config w (.post call path payload)).log = w.log := by
  dsimp only [outboxStep]
  split
  · rename_i key hidle hkey
    have hkeyed := keyedBy_recordKey hkey
    split
    · rename_i hpath
      exact ⟨h.goTo call ⟨hkeyed, hpath⟩, rfl⟩
    · split
      · exact ⟨h.goTo call ⟨hkeyed, hkeyed⟩, rfl⟩
      · exact ⟨h, rfl⟩
  · exact ⟨h, rfl⟩

theorem outboxInv_replay (h : OutboxInv config w) (call : Nat) (includeQuarantined : Bool) :
    OutboxInv config (outboxStep config w (.replay call includeQuarantined)) ∧
      (outboxStep config w (.replay call includeQuarantined)).log = w.log := by
  dsimp only [outboxStep]
  split
  · refine ⟨h.goTo call (phaseOk_replayNext fun item hitem => h.records item ?_), rfl⟩
    exact (List.mem_filter.mp (List.mem_of_mem_take hitem)).1
  · exact ⟨h, rfl⟩

theorem outboxInv_read (h : OutboxInv config w) (call : Nat) (ok : Bool) :
    OutboxInv config (outboxStep config w (.read call ok)) ∧ (outboxStep config w (.read call ok)).log = w.log := by
  dsimp only [outboxStep]
  split
  · rename_i write attempt next hcall
    have hphase := h.calls call
    rw [hcall] at hphase
    refine ⟨h.goTo call ?_, rfl⟩
    split
    · exact phaseOk_readLog hphase.1 hphase.2
    · exact phaseOk_raised hphase.2
  · exact ⟨h, rfl⟩

theorem outboxInv_replace (h : OutboxInv config w) (call : Nat) (answer : ReplaceAnswer) :
    OutboxInv config (outboxStep config w (.replace call answer)) ∧
      ((outboxStep config w (.replace call answer)).log = w.log ∨
        ∃ write, ReplacesLog w (.replace call answer) write) := by
  dsimp only [outboxStep]
  split
  · rename_i write attempt updated version next hcall
    have hphase := h.calls call
    rw [hcall] at hphase
    split
    · rename_i hreplaced
      obtain ⟨rfl, rfl⟩ := hreplaced
      exact ⟨h.replaced hcall, .inr ⟨write, call, attempt, updated, next, rfl, hcall⟩⟩
    · split
      · exact ⟨h.goTo call ⟨hphase.1, hphase.2.1⟩, .inl rfl⟩
      · exact ⟨h.goTo call (phaseOk_raised hphase.2.1), .inl rfl⟩
  · exact ⟨h, .inl rfl⟩

theorem outboxInv_deliver (h : OutboxInv config w) (call : Nat) (answer : DeliveryAnswer) :
    OutboxInv config (outboxStep config w (.deliver call answer)) ∧
      (outboxStep config w (.deliver call answer)).log = w.log := by
  dsimp only [outboxStep]
  split
  · rename_i event delivery hcall
    have hphase := h.calls call
    rw [hcall] at hphase
    obtain ⟨hkeyed, hnext⟩ := hphase
    have haccepted : event.key ∈ (w.accept event.key).accepted := List.mem_cons_self
    have hmore : w.accepted ⊆ (w.accept event.key).accepted := List.subset_cons_self _ _
    split
    · exact ⟨(h.accept event.key).goTo call trivial, rfl⟩
    · exact ⟨(h.accept event.key).goTo call ⟨haccepted, haccepted⟩, rfl⟩
    · exact ⟨(h.accept event.key).goTo call trivial, rfl⟩
    · rename_i item rest
      have hkey : item.key ∈ (w.accept event.key).accepted := by
        rw [hnext.1]
        exact haccepted
      exact ⟨(h.accept event.key).goTo call ⟨hkey, fun other hother => (hnext.2 other hother).mono hmore⟩, rfl⟩
    · exact ⟨h.goTo call trivial, rfl⟩
    · exact ⟨h.goTo call trivial, rfl⟩
    · exact ⟨h.goTo call ⟨⟨hnext, hkeyed⟩, trivial⟩, rfl⟩
    · rename_i item rest retryable verdicts
      exact ⟨h.goTo call (phaseOk_replayFailure retryable verdicts hnext.2), rfl⟩
  · exact ⟨h, rfl⟩

/-- Whatever a step does, only the replace of a write changes the log. -/
theorem outboxInv_step (h : OutboxInv config w) (step : OutboxStep) :
    OutboxInv config (outboxStep config w step) ∧
      ((outboxStep config w step).log = w.log ∨ ∃ write, ReplacesLog w step write) := by
  cases step with
  | post call path payload => exact (outboxInv_post h call path payload).imp_right .inl
  | replay call includeQuarantined => exact (outboxInv_replay h call includeQuarantined).imp_right .inl
  | read call ok => exact (outboxInv_read h call ok).imp_right .inl
  | replace call answer => exact outboxInv_replace h call answer
  | deliver call answer => exact (outboxInv_deliver h call answer).imp_right .inl
  | stop call => exact ⟨h.goTo call trivial, .inl rfl⟩
  | tick elapsed =>
    have hclock : w.clock ≤ w.clock + elapsed := Int.le_add_of_nonneg_right (Int.natCast_nonneg elapsed)
    exact ⟨⟨h.records, fun call => (h.calls call).mono (List.Subset.refl _) hclock (.inl ⟨rfl, rfl⟩)⟩, .inl rfl⟩

end Calls

/-! ### Runs -/

/-- What a step may do to the log. -/
structure SafeLog (config : OutboxConfig) (w : OutboxWorld) (step : OutboxStep) : Prop where
  /-- A critical event leaves it accepted, too old, or quarantined and evicted. -/
  kept : ∀ item ∈ w.log, item.critical = true →
    (∃ later ∈ (outboxStep config w step).log, SameEvent later item) ∨ item.key ∈ w.accepted ∨
      (∃ bufferedAt, ReplacesLog w step (.remove item.key (.expired bufferedAt))) ∧
        item.bufferedAt + config.maxRetryAge ≤ w.clock ∨
      (∃ event, ReplacesLog w step (.append event)) ∧ item.quarantined = true
  unevicted : ∀ event, ReplacesLog w step (.append event) → ∀ item ∈ w.log, item.quarantined = false →
    item ∈ (outboxStep config w step).log
  bounded : (outboxStep config w step).log = w.log ∨ config.Fits (outboxStep config w step).log

/-- A replay that removes a record for its age finds the record it judged, unless the key was accepted. -/
def ExpiresWhatItRead (w : OutboxWorld) (step : OutboxStep) : Prop :=
  ∀ key bufferedAt, ReplacesLog w step (.remove key (.expired bufferedAt)) →
    key ∈ w.accepted ∨ ∀ item ∈ w.log, item.key = key → item.bufferedAt = bufferedAt

def expiresWhatItRead (w : OutboxWorld) (step : OutboxStep) : Bool :=
  match step with
  | .replace call .replaced =>
    match w.calls call with
    | .replacing (.remove key (.expired bufferedAt)) _ _ version _ =>
      version != w.version || w.accepted.contains key ||
        w.log.all fun item => item.key != key || decide (item.bufferedAt = bufferedAt)
    | _ => true
  | _ => true

private theorem expiresWhatItRead_sound {w : OutboxWorld} {step : OutboxStep} (h : expiresWhatItRead w step = true) :
    ExpiresWhatItRead w step := by
  rintro key bufferedAt ⟨call, attempt, updated, next, rfl, hcall⟩
  unfold expiresWhatItRead at h
  dsimp only at h
  rw [hcall] at h
  simp only [bne_self_eq_false, Bool.false_or, Bool.or_eq_true, List.contains_iff_mem, List.all_eq_true, bne_iff_ne,
    decide_eq_true_eq] at h
  refine h.imp_right fun hall item hitem hkey => ?_
  exact (hall item hitem).resolve_left fun hne => hne hkey

private theorem safeLog_of_inv {config : OutboxConfig} {w : OutboxWorld} {step : OutboxStep} (h : OutboxInv config w)
    (hexpires : ExpiresWhatItRead w step) : SafeLog config w step := by
  have hcases := (outboxInv_step h step).2
  refine ⟨fun item hitem hcritical => ?_, fun event hwrite item hitem hlive => ?_, ?_⟩
  · rcases hcases with hstays | ⟨write, hwrite⟩
    · rw [hstays]
      exact .inl ⟨item, hitem, sameEvent_refl item⟩
    · obtain ⟨⟨now, hlog⟩, -, hok⟩ := hwrite.log h
      rw [hlog]
      rcases kept_rewritten hok hitem hcritical (h.records item hitem) with
        hkept | ⟨event, rfl, hquarantined⟩ | ⟨reason, rfl⟩
      · exact .inl hkept
      · exact .inr (.inr (.inr ⟨⟨event, hwrite⟩, hquarantined⟩))
      · cases reason with
        | accepted => exact .inr (.inl hok)
        | expired bufferedAt =>
          rcases hexpires item.key bufferedAt hwrite with haccepted | hread
          · exact .inr (.inl haccepted)
          · refine .inr (.inr (.inl ⟨⟨bufferedAt, hwrite⟩, ?_⟩))
            rw [hread item hitem rfl]
            exact hok
  · obtain ⟨⟨now, hlog⟩, -, -⟩ := hwrite.log h
    rw [hlog]
    unfold rewritten
    dsimp only
    split
    · exact hitem
    · exact (evict_spec _ _).2 item (List.mem_append_left _ hitem) hlive
  · rcases hcases with hstays | ⟨write, hwrite⟩
    · exact .inl hstays
    · exact .inr (hwrite.log h).2.1

/-- No critical event is lost and the log stays within its bounds, in every run whose expiries remove what they
judged. -/
theorem outbox_keeps_critical_events (config : OutboxConfig) (steps : List OutboxStep)
    (h : Run.Along (outboxStep config) ExpiresWhatItRead {} steps) :
    Run.Along (outboxStep config) (SafeLog config) {} steps := by
  refine Run.along_of_invariant (fun w step hinv _ => (outboxInv_step hinv step).1)
    (fun w step hinv hexpires => safeLog_of_inv hinv hexpires) ?_ h
  refine ⟨fun item hitem => ?_, fun call => trivial⟩
  cases hitem

private def terminalPayload : Details := [("cluster_id", .str "c"), ("attempt_id", .str "a")]

private def bufferedTerminal (call : Nat) : List OutboxStep :=
  [.post call "/v1/attempts/terminal" terminalPayload, .read call true, .replace call .replaced,
    .deliver call (.failed true [])]

/-- A replay that fails to deliver the record it read, up to the replace that removes it. -/
private def failedReplay (call : Nat) : List OutboxStep := [.deliver call (.failed true []), .read call true]

theorem outbox_expires_old_record :
    Run.Along (outboxStep {}) (SafeLog {}) {}
      (bufferedTerminal 1 ++ [.tick 86400, .replay 1 false] ++ failedReplay 1 ++ [.replace 1 .replaced]) := by
  refine outbox_keeps_critical_events {} _ (Run.Along.mono (fun _ _ => expiresWhatItRead_sound) ?_)
  decide +kernel

/-- Two replays read an old record, one removes it, and the event is buffered anew before the other goes on. -/
private def staleReplay : List OutboxStep :=
  bufferedTerminal 1 ++ [.tick 86400, .replay 0 false, .replay 1 false] ++ failedReplay 1 ++ [.replace 1 .replaced] ++
    bufferedTerminal 1 ++ failedReplay 0

private def freshTerminal : OutboxRecord :=
  { key := "c/a/terminal"
    path := "/v1/attempts/terminal"
    payload := terminalPayload
    bufferedAt := 86400 }

/-- The other replay then removes the new record: it is not old, and the control plane never accepted its event. -/
theorem outbox_expiry_removes_fresh_record :
    ¬ Run.Along (outboxStep {}) (SafeLog {}) {} (staleReplay ++ [.replace 0 .replaced]) := by
  intro h
  have hlast := h.split.2.1
  have hfresh : freshTerminal ∈ (Run.exec (outboxStep {}) {} staleReplay).log := by decide +kernel
  rcases hlast.kept freshTerminal hfresh (by decide +kernel) with
    ⟨later, hlater, -⟩ | haccepted | ⟨-, hold⟩ | ⟨-, hquarantined⟩
  · have hempty : (outboxStep {} (Run.exec (outboxStep {}) {} staleReplay) (.replace 0 .replaced)).log = [] := by
      decide +kernel
    rw [hempty] at hlater
    cases hlater
  · exact absurd haccepted (by decide +kernel)
  · exact absurd hold (by decide +kernel)
  · exact absurd hquarantined (by decide +kernel)

end GpuFaultRecovery
