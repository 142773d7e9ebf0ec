import GpuFaultRecovery.CompletionOutboxRun

/-!
# What a replay removes

A replay delivers a record of the log it read, and removes it by its key in a later write. What that write takes out
is what was delivered, unless another payload was buffered under the key in between: a failed observation replaces the
record of its key, and the removal then takes out the newer one, which nobody delivered.
-/

namespace GpuFaultRecovery

/-- A world, with the event that a replay has just had accepted and is about to clear. The note decides nothing. -/
structure ReplayWorld extends OutboxWorld where
  sent : Nat → Option OutboxEvent := fun _ => none

namespace ReplayWorld

variable (w : ReplayWorld)

def note (call : Nat) (event : Option OutboxEvent) : Nat → Option OutboxEvent :=
  fun other => if other = call then event else w.sent other

end ReplayWorld

def OutboxPhase.replaces : OutboxPhase → Bool
  | .replacing _ _ _ _ _ => true
  | _ => false

/-- The notes after a step: an accepted delivery of a replay is noted until its removal is through or given up. -/
def sentAfter (config : OutboxConfig) (w : ReplayWorld) : OutboxStep → Nat → Option OutboxEvent
  | .read call ok =>
    match w.calls call with
    | .reading write attempt next =>
      if ok && (w.readLog config write attempt next).replaces then w.sent else w.note call none
    | _ => w.sent
  | .replace call answer =>
    match w.calls call with
    | .replacing _ attempt _ version _ =>
      if (answer = .replaced ∧ version = w.version) ∨ answer = .failed ∨ 2 ≤ attempt then w.note call none else w.sent
    | _ => w.sent
  | .deliver call .accepted =>
    match w.calls call with
    | .delivering event (.record _ _) => w.note call (some event)
    | _ => w.sent
  | .stop call => w.note call none
  | _ => w.sent

def replayStep (config : OutboxConfig) (w : ReplayWorld) (step : OutboxStep) : ReplayWorld :=
  { toOutboxWorld := outboxStep config w.toOutboxWorld step
    sent := sentAfter config w step }

/-- A replace that clears what a replay has had accepted takes out nothing but the payload that was sent. -/
def RemovesWhatItSent (config : OutboxConfig) (w : ReplayWorld) (step : OutboxStep) : Prop :=
  ∀ call answer event, step = .replace call answer → w.sent call = some event →
    ∀ item ∈ w.log, item ∉ (outboxStep config w.toOutboxWorld step).log → item.payload = event.payload

/-! ### Records that are buffered while a replay holds others -/

def heldBy : OutboxPhase → List OutboxRecord
  | .reading _ _ (.replay rest) => rest
  | .replacing _ _ _ _ (.replay rest) => rest
  | .delivering _ (.record item rest) => item :: rest
  | _ => []

/-- The keys and payloads a call goes by: what it has just sent, and those of its snapshot. -/
def heldEvents (phase : OutboxPhase) (sent : Option OutboxEvent) : List (String × Details) :=
  (sent.map fun event => (event.key, event.payload)).toList ++ (heldBy phase).map fun item => (item.key, item.payload)

/-- The key and the payload a write buffers, if it buffers any. -/
def LogWrite.buffered (config : OutboxConfig) : LogWrite → Option (String × Details)
  | .append event => some (event.key, pointerSizedPayload config.maxBufferedTailBytes event.payload)
  | .upsert event => some (event.key, event.payload)
  | .remove _ _ => none
  | .update _ _ => none

/-- Nothing is buffered under a key that a replay holds with another payload. -/
def BuffersApart (config : OutboxConfig) (w : ReplayWorld) (step : OutboxStep) : Prop :=
  ∀ write key payload, ReplacesLog w.toOutboxWorld step write → write.buffered config = some (key, payload) →
    ∀ call other, (key, other) ∈ heldEvents (w.calls call) (w.sent call) → other = payload

/-! ### Writes -/

section Writes

variable {config : OutboxConfig} {log : List OutboxRecord} {write : LogWrite} {item : OutboxRecord} {now : Time}

private theorem evict_sublist (fuel : Nat) (log : List OutboxRecord) :
    (evictQuarantinedForRoom config fuel log).Sublist log := by
  induction fuel generalizing log with
  | zero => exact List.Sublist.refl log
  | succ fuel ih =>
    unfold evictQuarantinedForRoom
    split
    · exact List.Sublist.refl log
    · split
      · exact List.Sublist.refl log
      · exact (ih _).trans (List.eraseIdx_sublist _ _)

/-- A record is in the log after a write with the payload it had, or was just buffered. -/
private theorem mem_rewritten (h : item ∈ rewritten config now log write) :
    (∃ old ∈ log, old.key = item.key ∧ old.payload = item.payload) ∨
      write.buffered config = some (item.key, item.payload) := by
  cases write with
  | append event =>
    unfold rewritten at h
    dsimp only at h
    split at h
    · exact .inl ⟨item, h, rfl, rfl⟩
    · rcases List.mem_append.mp ((evict_sublist _ _).subset h) with hold | hnew
      · exact .inl ⟨item, hold, rfl, rfl⟩
      · rw [List.mem_singleton.mp hnew]
        exact .inr rfl
  | upsert event =>
    rcases List.mem_append.mp h with hold | hnew
    · exact .inl ⟨item, (List.mem_filter.mp hold).1, rfl, rfl⟩
    · rw [List.mem_singleton.mp hnew]
      exact .inr rfl
  | remove key reason => exact .inl ⟨item, (List.mem_filter.mp h).1, rfl, rfl⟩
  | update key fields =>
    obtain ⟨old, hold, rfl⟩ := List.mem_map.mp h
    refine .inl ⟨old, hold, ?_⟩
    split
    · exact ⟨(sameEvent_apply fields old).key.symm, (sameEvent_apply fields old).payload.symm⟩
    · exact ⟨rfl, rfl⟩

/-- No write puts a second record under a key. -/
private theorem nodup_keys_rewritten (h : (log.map OutboxRecord.key).Nodup) :
    ((rewritten config now log write).map OutboxRecord.key).Nodup := by
  cases write with
  | append event =>
    unfold rewritten
    dsimp only
    split
    · exact h
    · rename_i hnew
      refine List.Nodup.sublist ((evict_sublist _ _).map _) ?_
      rw [List.map_append, List.map_singleton, List.nodup_append]
      refine ⟨h, List.nodup_singleton _, fun key hkey other hother => ?_⟩
      rintro rfl
      obtain ⟨item, hitem, rfl⟩ := List.mem_map.mp hkey
      refine hnew (List.any_eq_true.mpr ⟨item, hitem, ?_⟩)
      rw [List.mem_singleton.mp hother]
      exact beq_self_eq_true _
  | upsert event =>
    unfold rewritten
    rw [List.map_append, List.map_singleton, List.nodup_append]
    refine ⟨h.sublist (List.filter_sublist.map _), List.nodup_singleton _, fun key hkey other hother => ?_⟩
    rintro rfl
    obtain ⟨item, hitem, rfl⟩ := List.mem_map.mp hkey
    have hne := (List.mem_filter.mp hitem).2
    rw [List.mem_singleton.mp hother] at hne
    simp [bufferedRecord] at hne
  | remove key reason => exact h.sublist (List.filter_sublist.map _)
  | update key fields =>
    have hkeys : (rewritten config now log (.update key fields)).map OutboxRecord.key = log.map OutboxRecord.key := by
      unfold rewritten
      rw [List.map_map]
      refine List.map_congr_left fun item _ => ?_
      simp only [Function.comp_apply]
      split
      · exact (sameEvent_apply fields item).key
      · rfl
    rw [hkeys]
    exact h

end Writes

/-! ### Calls -/

/-- The call is on its way to remove a record whose event was accepted, in a replay. -/
def OutboxPhase.Clears (key : String) : OutboxPhase → Prop
  | .reading write _ (.replay _) => write = .remove key .accepted
  | .replacing write _ _ _ (.replay _) => write = .remove key .accepted
  | _ => False

def OutboxPhase.DeliversRecord : OutboxPhase → Prop
  | .delivering event (.record item _) => event.key = item.key ∧ event.payload = item.payload
  | _ => True

/-- What a replay relies on: the log holds nothing else under the keys it goes by. -/
structure CallOk (log : List OutboxRecord) (phase : OutboxPhase) (sent : Option OutboxEvent) : Prop where
  clears : ∀ event, sent = some event → phase.Clears event.key
  delivers : phase.DeliversRecord
  current :
    ∀ key payload, (key, payload) ∈ heldEvents phase sent → ∀ item ∈ log, item.key = key → item.payload = payload

section Calls

variable {config : OutboxConfig} {w : ReplayWorld} {log log' rest : List OutboxRecord} {updated : List OutboxRecord}
  {phase : OutboxPhase} {sent : Option OutboxEvent} {write : LogWrite} {next : AfterWrite} {event : OutboxEvent}
  {item : OutboxRecord} {attempt attempt' version : Nat}

private theorem mem_heldEvents {key : String} {payload : Details} : (key, payload) ∈ heldEvents phase sent ↔
    (∃ event, sent = some event ∧ event.key = key ∧ event.payload = payload) ∨
      ∃ item ∈ heldBy phase, item.key = key ∧ item.payload = payload := by
  simp only [heldEvents, List.mem_append, Option.mem_toList, Option.map_eq_some_iff, List.mem_map,
    Prod.mk.injEq]

private theorem CallOk.sent_eq_none (h : CallOk log phase sent) (hphase : ∀ key, ¬ phase.Clears key) :
    sent = none := by
  cases hsent : sent with
  | none => rfl
  | some event => exact absurd (h.clears event hsent) (hphase event.key)

private theorem callOk_none (hdelivers : phase.DeliversRecord)
    (hheld : ∀ held ∈ heldBy phase, ∀ item ∈ log, item.key = held.key → item.payload = held.payload) :
    CallOk log phase none := by
  refine ⟨fun event hevent => (nomatch hevent), hdelivers, fun key payload hmem => ?_⟩
  rcases mem_heldEvents.mp hmem with ⟨event, hevent, -⟩ | ⟨held, hin, rfl, rfl⟩
  · cases hevent
  · exact hheld held hin

private theorem CallOk.heldBy (h : CallOk log phase sent) :
    ∀ held ∈ heldBy phase, ∀ item ∈ log, item.key = held.key → item.payload = held.payload :=
  fun held hin => h.current held.key held.payload (mem_heldEvents.mpr (.inr ⟨held, hin, rfl, rfl⟩))

private theorem callOk_idle : CallOk log .idle none := callOk_none trivial fun _ hheld => nomatch hheld

private theorem callOk_replayNext
    (h : ∀ held ∈ rest, ∀ item ∈ log, item.key = held.key → item.payload = held.payload) :
    CallOk log (OutboxWorld.replayNext rest) none := by
  unfold OutboxWorld.replayNext
  split
  · exact callOk_idle
  · split
    · exact callOk_none trivial fun held hheld => h held (List.mem_cons_of_mem _ hheld)
    · exact callOk_none ⟨rfl, rfl⟩ h

private theorem callOk_written (h : ∀ rest, next = .replay rest →
    ∀ held ∈ rest, ∀ item ∈ log, item.key = held.key → item.payload = held.payload) :
    CallOk log (OutboxWorld.written next) none := by
  cases next with
  | deliver event => exact callOk_none trivial fun _ hheld => nomatch hheld
  | cleared key => exact callOk_idle
  | finish => exact callOk_idle
  | replay rest => exact callOk_replayNext (h rest rfl)

private theorem callOk_raised (log : List OutboxRecord) (next : AfterWrite) :
    CallOk log (OutboxWorld.raised next) none := by
  cases next with
  | deliver event => exact callOk_none trivial fun _ hheld => nomatch hheld
  | cleared key => exact callOk_none trivial fun _ hheld => nomatch hheld
  | finish => exact callOk_idle
  | replay rest => exact callOk_idle

private theorem callOk_reading_iff : CallOk log (.reading write attempt' next) sent ↔
    CallOk log (.replacing write attempt updated version next) sent := by
  cases next <;> exact ⟨fun h => ⟨h.clears, h.delivers, h.current⟩, fun h => ⟨h.clears, h.delivers, h.current⟩⟩

private theorem CallOk.mono (h : CallOk log phase sent)
    (hlog : ∀ item ∈ log', (∃ old ∈ log, old.key = item.key ∧ old.payload = item.payload) ∨
      ∀ payload, (item.key, payload) ∈ heldEvents phase sent → payload = item.payload) :
    CallOk log' phase sent := by
  refine ⟨h.clears, h.delivers, fun key payload hmem item hitem hkey => ?_⟩
  rcases hlog item hitem with ⟨old, hold, holdkey, holdpayload⟩ | hbuffered
  · rw [← holdpayload]
    exact h.current key payload hmem old hold (holdkey.trans hkey)
  · exact (hbuffered payload (hkey ▸ hmem)).symm

end Calls

/-! ### Steps -/

/-- What every reachable world keeps, as long as nothing is buffered over a record that a replay holds. -/
structure ReplayInv (config : OutboxConfig) (w : ReplayWorld) : Prop where
  outbox : OutboxInv config w.toOutboxWorld
  keys : (w.log.map OutboxRecord.key).Nodup
  calls : ∀ call, CallOk w.log (w.calls call) (w.sent call)

section Steps

variable {config : OutboxConfig} {w : ReplayWorld} {log : List OutboxRecord} {phase : OutboxPhase}
  {sent : Option OutboxEvent}

private theorem callOk_goTo (h : ∀ other, CallOk log (w.calls other) (w.sent other)) (call : Nat)
    (hphase : CallOk log phase sent) (other : Nat) :
    CallOk log ((w.goTo call phase).calls other) (w.note call sent other) := by
  rw [goTo_calls, ReplayWorld.note]
  by_cases he : other = call
  · rw [if_pos he, if_pos he]
    exact hphase
  · rw [if_neg he, if_neg he]
    exact h other

private theorem note_sent (w : ReplayWorld) (call : Nat) : w.note call (w.sent call) = w.sent := by
  funext other
  unfold ReplayWorld.note
  split
  · rename_i he
    rw [he]
  · rfl

private theorem callOk_goTo_same (h : ∀ other, CallOk log (w.calls other) (w.sent other)) (call : Nat)
    (hphase : CallOk log phase (w.sent call)) (other : Nat) :
    CallOk log ((w.goTo call phase).calls other) (w.sent other) := by
  have hall := callOk_goTo h call hphase other
  rw [note_sent] at hall
  exact hall

private theorem callOk_goTo_none (h : ∀ other, CallOk log (w.calls other) (w.sent other)) (call : Nat)
    (hnone : w.sent call = none) (hphase : CallOk log phase none) (other : Nat) :
    CallOk log ((w.goTo call phase).calls other) (w.sent other) := by
  rw [← hnone] at hphase
  exact callOk_goTo_same h call hphase other

private theorem callOk_post (h : ReplayInv config w) (call : Nat) (path : String) (payload : Details) (other : Nat) :
    CallOk w.log ((replayStep config w (.post call path payload)).calls other) (w.sent other) := by
  dsimp only [replayStep, outboxStep]
  split
  · rename_i key hidle hkey
    have hnone := (h.calls call).sent_eq_none (by simp [hidle, OutboxPhase.Clears])
    split
    · refine callOk_goTo_none h.calls call hnone ?_ other
      exact callOk_none trivial fun _ hheld => nomatch hheld
    · split
      · refine callOk_goTo_none h.calls call hnone ?_ other
        exact callOk_none trivial fun _ hheld => nomatch hheld
      · exact h.calls other
  · exact h.calls other

private theorem callOk_replay (h : ReplayInv config w) (call : Nat) (includeQuarantined : Bool) (other : Nat) :
    CallOk w.log ((replayStep config w (.replay call includeQuarantined)).calls other) (w.sent other) := by
  dsimp only [replayStep, outboxStep]
  split
  · rename_i hidle
    have hnone := (h.calls call).sent_eq_none (by simp [hidle, OutboxPhase.Clears])
    refine callOk_goTo_none h.calls call hnone (callOk_replayNext fun held hheld item hitem hkey => ?_) other
    have hin : held ∈ w.log := (List.mem_filter.mp (List.mem_of_mem_take hheld)).1
    rw [List.inj_on_of_nodup_map h.keys hitem hin hkey]
  · exact h.calls other

/-- After its read a call is before the replace of its write, or done with it. -/
private theorem readLog_cases (w : OutboxWorld) (write : LogWrite) (attempt : Nat) (next : AfterWrite) :
    (∃ updated, w.readLog config write attempt next = .replacing write attempt updated w.version next) ∨
      (w.readLog config write attempt next).replaces = false ∧
        (w.readLog config write attempt next = .idle ∨
          w.readLog config write attempt next = OutboxWorld.written next ∨
          w.readLog config write attempt next = OutboxWorld.raised next) := by
  have hwritten : (OutboxWorld.written next).replaces = false := by
    cases next with
    | replay rest =>
      unfold OutboxWorld.written OutboxWorld.replayNext
      dsimp only
      split
      · rfl
      · split <;> rfl
    | _ => rfl
  have hraised : (OutboxWorld.raised next).replaces = false := by
    cases next <;> rfl
  unfold OutboxWorld.readLog
  dsimp only
  split
  · split
    · exact .inr ⟨rfl, .inl rfl⟩
    · exact .inr ⟨hwritten, .inr (.inl rfl)⟩
  · split
    · exact .inl ⟨_, rfl⟩
    · exact .inr ⟨hraised, .inr (.inr rfl)⟩

private theorem CallOk.written {write : LogWrite} {attempt : Nat} {next : AfterWrite}
    (h : CallOk log (.reading write attempt next) sent) : CallOk log (OutboxWorld.written next) none := by
  refine callOk_written fun rest hrest => ?_
  subst hrest
  exact h.heldBy

private theorem callOk_read (h : ReplayInv config w) (call : Nat) (ok : Bool) (other : Nat) :
    CallOk w.log ((replayStep config w (.read call ok)).calls other)
      ((replayStep config w (.read call ok)).sent other) := by
  have hphase := h.calls call
  dsimp only [replayStep, outboxStep, sentAfter]
  cases hcall : w.calls call with
  | reading write attempt next =>
    rw [hcall] at hphase
    dsimp only
    cases ok with
    | false => exact callOk_goTo h.calls call (callOk_raised _ _) other
    | true =>
      rcases readLog_cases w.toOutboxWorld write attempt next with ⟨updated, hread⟩ | ⟨hreplaces, hread⟩
      · rw [hread]
        exact callOk_goTo_same h.calls call (callOk_reading_iff.mp hphase) other
      · rw [hreplaces]
        rcases hread with hread | hread | hread
        · rw [hread]
          exact callOk_goTo h.calls call callOk_idle other
        · rw [hread]
          exact callOk_goTo h.calls call hphase.written other
        · rw [hread]
          exact callOk_goTo h.calls call (callOk_raised _ _) other
  | _ => exact h.calls other

/-- An accepted delivery of a replay is noted as it goes on to the removal. -/
private theorem callOk_deliver (h : ReplayInv config w) (call : Nat) (answer : DeliveryAnswer) (other : Nat) :
    CallOk w.log ((replayStep config w (.deliver call answer)).calls other)
      ((replayStep config w (.deliver call answer)).sent other) := by
  have hphase := h.calls call
  cases hcall : w.calls call with
  | delivering event next =>
    rw [hcall] at hphase
    have hnone := hphase.sent_eq_none (by simp [OutboxPhase.Clears])
    have hbare : ∀ phase : OutboxPhase, heldBy phase = [] → phase.DeliversRecord →
        CallOk w.log ((w.goTo call phase).calls other) (w.sent other) := by
      intro phase hheld hdelivers
      refine callOk_goTo_none h.calls call hnone (callOk_none hdelivers fun held hin => ?_) other
      rw [hheld] at hin
      cases hin
    cases answer with
    | accepted =>
      dsimp only [replayStep, outboxStep, sentAfter]
      rw [hcall]
      cases next with
      | unbuffered => exact hbare .idle rfl trivial
      | clear => exact hbare _ rfl trivial
      | observed => exact hbare .idle rfl trivial
      | record item rest =>
        obtain ⟨hkey, hpayload⟩ := hphase.delivers
        refine callOk_goTo h.calls call ?_ other
        refine ⟨fun sent hsent => ?_, trivial, fun key payload hmem => ?_⟩
        · cases hsent
          rw [hkey]
          rfl
        · rcases mem_heldEvents.mp hmem with ⟨sent, hsent, rfl, rfl⟩ | ⟨held, hin, rfl, rfl⟩
          · cases hsent
            rw [hkey, hpayload]
            exact hphase.heldBy item List.mem_cons_self
          · exact hphase.heldBy held (List.mem_cons_of_mem _ hin)
    | failed retryable verdicts =>
      dsimp only [replayStep, outboxStep, sentAfter]
      rw [hcall]
      cases next with
      | unbuffered => exact hbare .idle rfl trivial
      | clear => exact hbare .idle rfl trivial
      | observed => exact hbare _ rfl trivial
      | record item rest =>
        have hrest := fun held hin => hphase.heldBy held (List.mem_cons_of_mem item hin)
        refine callOk_goTo_none h.calls call hnone ?_ other
        unfold OutboxWorld.replayFailure
        split
        · exact callOk_none trivial hrest
        · split
          · exact callOk_none trivial hrest
          · exact callOk_none trivial hrest
  | _ =>
    dsimp only [replayStep, outboxStep]
    rw [hcall]
    cases answer with
    | accepted =>
      dsimp only [sentAfter]
      rw [hcall]
      exact h.calls other
    | failed retryable verdicts => exact h.calls other

private theorem callOk_stop (h : ReplayInv config w) (call other : Nat) :
    CallOk w.log ((replayStep config w (.stop call)).calls other) ((replayStep config w (.stop call)).sent other) :=
  callOk_goTo h.calls call callOk_idle other

/-- With a replace a call is done with its write, or before a new read. -/
private theorem callOk_replace (h : ∀ other, CallOk log (w.calls other) (w.sent other)) (call : Nat)
    (answer : ReplaceAnswer) (other : Nat) : CallOk log ((replayStep config w (.replace call answer)).calls other)
      ((replayStep config w (.replace call answer)).sent other) := by
  have hphase := h call
  dsimp only [replayStep, outboxStep, sentAfter]
  cases hcall : w.calls call with
  | replacing write attempt updated version next =>
    rw [hcall] at hphase
    have hreading : CallOk log (.reading write (attempt + 1) next) (w.sent call) := callOk_reading_iff.mpr hphase
    dsimp only
    by_cases hreplaced : answer = .replaced ∧ version = w.version
    · rw [if_pos hreplaced, if_pos (.inl hreplaced)]
      exact callOk_goTo h call hreading.written other
    · rw [if_neg hreplaced]
      by_cases hretry : answer ≠ .failed ∧ attempt < 2
      · rw [if_pos hretry, if_neg (by
          rintro (hdone | hfailed | hlast)
          · exact hreplaced hdone
          · exact hretry.1 hfailed
          · omega)]
        exact callOk_goTo_same h call hreading other
      · have hgiven : answer = .failed ∨ 2 ≤ attempt := by
          by_cases hfailed : answer = .failed
          · exact .inl hfailed
          · exact .inr (not_lt.mp fun hlt => hretry ⟨hfailed, hlt⟩)
        rw [if_neg hretry, if_pos (.inr hgiven)]
        exact callOk_goTo h call (callOk_raised _ _) other
  | _ => exact h other

private theorem ReplayInv.replaced {step : OutboxStep} {write : LogWrite} (h : ReplayInv config w)
    (happart : BuffersApart config w step) (hwrite : ReplacesLog w.toOutboxWorld step write) (call : Nat) :
    CallOk (outboxStep config w.toOutboxWorld step).log (w.calls call) (w.sent call) := by
  obtain ⟨⟨now, hlog⟩, -, -⟩ := hwrite.log h.outbox
  rw [hlog]
  refine (h.calls call).mono fun item hitem => ?_
  rcases mem_rewritten hitem with hold | hbuffered
  · exact .inl hold
  · exact .inr fun payload hheld => happart write item.key item.payload hwrite hbuffered call payload hheld

private theorem replayInv_step (h : ReplayInv config w) (step : OutboxStep) (happart : BuffersApart config w step) :
    ReplayInv config (replayStep config w step) := by
  obtain ⟨houtbox, hlog⟩ := outboxInv_step h.outbox step
  refine ⟨houtbox, ?_, ?_⟩
  · rcases hlog with hsame | ⟨write, hwrite⟩
    · exact hsame.symm ▸ h.keys
    · obtain ⟨⟨now, hrewritten⟩, -, -⟩ := hwrite.log h.outbox
      exact hrewritten.symm ▸ nodup_keys_rewritten h.keys
  · intro other
    cases step with
    | post call path payload =>
      have hsame : (replayStep config w (.post call path payload)).log = w.log := (outboxInv_post h.outbox _ _ _).2
      rw [hsame]
      exact callOk_post h call path payload other
    | replay call includeQuarantined =>
      have hsame : (replayStep config w (.replay call includeQuarantined)).log = w.log :=
        (outboxInv_replay h.outbox _ _).2
      rw [hsame]
      exact callOk_replay h call includeQuarantined other
    | read call ok =>
      have hsame : (replayStep config w (.read call ok)).log = w.log := (outboxInv_read h.outbox _ _).2
      rw [hsame]
      exact callOk_read h call ok other
    | replace call answer =>
      refine callOk_replace (fun call' => ?_) call answer other
      rcases hlog with hsame | ⟨write, hwrite⟩
      · exact hsame.symm ▸ h.calls call'
      · exact h.replaced happart hwrite call'
    | deliver call answer =>
      have hsame : (replayStep config w (.deliver call answer)).log = w.log := (outboxInv_deliver h.outbox _ _).2
      rw [hsame]
      exact callOk_deliver h call answer other
    | stop call => exact callOk_stop h call other
    | tick elapsed => exact h.calls other

/-- What a replace after an accepted delivery takes out is what was delivered. -/
private theorem removesWhatItSent_of_inv (h : ReplayInv config w) (step : OutboxStep) :
    RemovesWhatItSent config w step := by
  rintro call answer event rfl hsent item hitem hgone
  have hphase := h.calls call
  rcases (outboxInv_replace h.outbox call answer).2 with hsame | ⟨write, hwrite⟩
  · rw [hsame] at hgone
    exact absurd hitem hgone
  · obtain ⟨⟨now, hlog⟩, -, -⟩ := hwrite.log h.outbox
    obtain ⟨call', attempt, updated, next, he, hcall⟩ := hwrite
    cases he
    have hclears := hphase.clears event hsent
    rw [hcall] at hclears
    cases next with
    | replay rest =>
      cases hclears
      have hkey : item.key = event.key := by
        by_contra hne
        rw [hlog] at hgone
        exact hgone (List.mem_filter.mpr ⟨hitem, by simpa using hne⟩)
      exact hphase.current event.key event.payload (mem_heldEvents.mpr (.inl ⟨event, hsent, rfl, rfl⟩)) item
        hitem hkey
    | _ => cases hclears

end Steps

private theorem replayInv_start (config : OutboxConfig) : ReplayInv config {} where
  outbox := ⟨fun _ hitem => (nomatch hitem), fun _ => trivial⟩
  keys := List.nodup_nil
  calls _ := callOk_idle

/-- A replay removes what it delivered and nothing else, in every run in which nothing is buffered under a key that a
replay holds with another payload. -/
theorem replay_removes_what_it_sent (config : OutboxConfig) (steps : List OutboxStep)
    (h : Run.Along (replayStep config) (BuffersApart config) {} steps) :
    Run.Along (replayStep config) (RemovesWhatItSent config) {} steps :=
  Run.along_of_invariant (fun _ step hinv happart => replayInv_step hinv step happart)
    (fun _ step hinv _ => removesWhatItSent_of_inv hinv step) (replayInv_start config) h

/-! ### Runs of a few calls -/

def OutboxStep.caller : OutboxStep → Option Nat
  | .post call _ _ => some call
  | .replay call _ => some call
  | .read call _ => some call
  | .replace call _ => some call
  | .deliver call _ => some call
  | .stop call => some call
  | .tick _ => none

/-- A step moves the call it is of. -/
private theorem replayStep_other {config : OutboxConfig} {w : ReplayWorld} {step : OutboxStep} {other : Nat}
    (h : step.caller ≠ some other) : (replayStep config w step).calls other = w.calls other ∧
      (replayStep config w step).sent other = w.sent other := by
  cases step with
  | tick elapsed => exact ⟨rfl, rfl⟩
  | deliver call answer =>
    have hne : other ≠ call := fun he => h (he ▸ rfl)
    dsimp only [replayStep, outboxStep]
    cases answer with
    | accepted =>
      dsimp only [sentAfter]
      cases w.calls call with
      | delivering event next => cases next <;> simp [OutboxWorld.goTo, OutboxWorld.accept, ReplayWorld.note, hne]
      | _ => exact ⟨rfl, rfl⟩
    | failed retryable verdicts =>
      cases w.calls call with
      | delivering event next => cases next <;> exact ⟨if_neg hne, rfl⟩
      | _ => exact ⟨rfl, rfl⟩
  | read call ok =>
    have hne : other ≠ call := fun he => h (he ▸ rfl)
    dsimp only [replayStep, outboxStep, sentAfter]
    cases w.calls call with
    | reading write attempt next =>
      refine ⟨if_neg hne, ?_⟩
      dsimp only
      split
      · rfl
      · exact if_neg hne
    | _ => exact ⟨rfl, rfl⟩
  | replace call answer =>
    have hne : other ≠ call := fun he => h (he ▸ rfl)
    dsimp only [replayStep, outboxStep, sentAfter]
    cases w.calls call with
    | replacing write attempt updated version next =>
      dsimp only
      constructor
      · split
        · exact if_neg hne
        · split <;> exact if_neg hne
      · split
        · exact if_neg hne
        · rfl
    | _ => exact ⟨rfl, rfl⟩
  | post call path payload =>
    have hne : other ≠ call := fun he => h (he ▸ rfl)
    refine ⟨?_, rfl⟩
    dsimp only [replayStep, outboxStep]
    split
    · split
      · exact if_neg hne
      · split
        · exact if_neg hne
        · rfl
    · rfl
  | replay call includeQuarantined =>
    have hne : other ≠ call := fun he => h (he ▸ rfl)
    refine ⟨?_, rfl⟩
    dsimp only [replayStep, outboxStep]
    split
    · exact if_neg hne
    · rfl
  | stop call =>
    have hne : other ≠ call := fun he => h (he ▸ rfl)
    exact ⟨if_neg hne, if_neg hne⟩

/-- `BuffersApart` as a test, when only `callers` have calls under way. -/
def buffersApart (config : OutboxConfig) (callers : List Nat) (w : ReplayWorld) (step : OutboxStep) : Bool :=
  step.caller.all callers.contains &&
    match step with
    | .replace call .replaced =>
      match w.calls call with
      | .replacing write _ _ _ _ =>
        (write.buffered config).all fun buffered => callers.all fun other =>
          (heldEvents (w.calls other) (w.sent other)).all fun held => held.1 != buffered.1 || held.2 == buffered.2
      | _ => true
    | _ => true

private theorem buffersApart_along {config : OutboxConfig} (callers : List Nat) {steps : List OutboxStep}
    (h : Run.Along (replayStep config) (fun w step => buffersApart config callers w step = true) {} steps) :
    Run.Along (replayStep config) (BuffersApart config) {} steps := by
  refine Run.along_of_invariant
    (I := fun w => ∀ other, other ∉ callers → w.calls other = .idle ∧
      w.sent other = none) ?_ ?_ (fun _ _ => ⟨rfl, rfl⟩) h
  · intro w step hidle htest other hother
    have hcaller := (Bool.and_eq_true_iff.mp htest).1
    have hne : step.caller ≠ some other := by
      intro he
      rw [he] at hcaller
      exact hother (List.contains_iff_mem.mp hcaller)
    rw [(replayStep_other hne).1, (replayStep_other hne).2]
    exact hidle other hother
  · intro w step hidle htest write key payload hwrite hbuffered call other hheld
    obtain ⟨replacer, attempt, updated, next, rfl, hcall⟩ := hwrite
    have htest := (Bool.and_eq_true_iff.mp htest).2
    dsimp only at htest
    rw [hcall] at htest
    simp only [hbuffered, Option.all_some, List.all_eq_true] at htest
    by_cases hin : call ∈ callers
    · simpa using htest call hin (key, other) hheld
    · rw [(hidle call hin).1, (hidle call hin).2] at hheld
      cases hheld

private def observedState (state : String) : Details :=
  [("cluster_id", .str "c"), ("attempt_id", .str "a"), ("state", .str state)]

private def bufferedObservation (call : Nat) (state : String) : List OutboxStep :=
  [.post call workloadObservationPath (observedState state), .deliver call (.failed true []), .read call true,
    .replace call .replaced]

/-- The same observation is buffered anew, a second later, while a replay delivers it, and the removal takes it
out. -/
theorem replay_removes_sent_observation :
    Run.Along (replayStep {}) (RemovesWhatItSent {}) {}
      (bufferedObservation 1 "RUNNING" ++ [.replay 0 false, .deliver 0 .accepted, .tick 1] ++
        bufferedObservation 1 "RUNNING" ++ [.read 0 true, .replace 0 .replaced]) := by
  refine replay_removes_what_it_sent {} _ (buffersApart_along [0, 1] ?_)
  decide +kernel

/-- A replay delivers the observation, a newer one is buffered, and the removal reads the log. -/
private def overtakenReplay : List OutboxStep :=
  bufferedObservation 1 "RUNNING" ++ [.replay 0 false, .deliver 0 .accepted] ++ bufferedObservation 1 "FAILED" ++
    [.read 0 true]

private def newerRecord : OutboxRecord :=
  { key := "c/a/workload-observations"
    path := workloadObservationPath
    payload := observedState "FAILED"
    bufferedAt := 0 }

/-- The removal then takes out the newer observation, which nobody has delivered. -/
theorem replay_removes_newer_observation :
    ¬ Run.Along (replayStep {}) (RemovesWhatItSent {}) {} (overtakenReplay ++ [.replace 0 .replaced]) := by
  intro h
  have hlast := h.split.2.1
  have hsent : (Run.exec (replayStep {}) {} overtakenReplay).sent 0 =
      some
        { key := "c/a/workload-observations"
          path := workloadObservationPath
          payload := observedState "RUNNING" } := by
    decide +kernel
  have hnewer : newerRecord ∈ (Run.exec (replayStep {}) {} overtakenReplay).log := by decide +kernel
  have hgone : newerRecord ∉ (outboxStep {} (Run.exec (replayStep {}) {} overtakenReplay).toOutboxWorld
      (.replace 0 .replaced)).log := by decide +kernel
  have hpayload := hlast 0 .replaced _ rfl hsent newerRecord hnewer hgone
  exact absurd hpayload (by decide +kernel)

end GpuFaultRecovery
