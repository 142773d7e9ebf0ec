import GpuFaultRecovery.TelemetrySpool
import GpuFaultRecovery.Run

/-!
# Runs of the telemetry spool

The state is the spool and the history of what happened to its rows, newest event first. What a row carries is read
off the history: its payload is the newest one admitted under its key, its attempts are the claims less the abandoned
ones since it was created, and the token on it is the one the last claim drew, for the payload the row still has. So
an answer that passes the fence comes from the last claim, and from no other claim as long as no token is drawn twice.
-/

namespace GpuFaultRecovery

/-- The spool and its history, newest event first. -/
structure SpoolState where
  rows : Spool
  log : List SpoolEvent

inductive SpoolOp where
  | spool (requests : List ProcessorRequest) (limits : SpoolLimits) (now : Time)
  | claim (req : SpoolClaim) (now : Time) (draw : String → String)
  | complete (items : List SpooledTelemetry)
  | abandon (items : List SpooledTelemetry) (now : Time)
  | release (items : List SpooledTelemetry) (now : Time) (backoff : Int) (maxAttempts : Option Nat)

/-- The rows after an operation and the events of it, in order. -/
def spoolEffect (loads : String → Option String) (rows : Spool) : SpoolOp → Spool × List SpoolEvent
  | .spool requests limits now =>
    let batch := trySpoolTelemetryRequests loads rows requests limits now
    (batch.rows, batch.events)
  | .claim req now draw =>
    let result := claimTelemetrySpool rows req now draw
    (result.1, result.2.map .claimed)
  | .complete items => completeTelemetrySpool rows items
  | .abandon items now => abandonTelemetrySpoolClaims rows items now
  | .release items now backoff maxAttempts => releaseTelemetrySpool rows items now backoff maxAttempts

def spoolStep (loads : String → Option String) (s : SpoolState) (op : SpoolOp) : SpoolState where
  rows := (spoolEffect loads s.rows op).1
  log := (spoolEffect loads s.rows op).2.reverse ++ s.log

def SpoolState.init : SpoolState := ⟨.empty, []⟩

/-! ### Reading the history -/

namespace SpoolEvent

def creates (key : String) : SpoolEvent → Bool
  | .created k _ => k == key
  | _ => false

def claims (key : String) : SpoolEvent → Bool
  | .claimed item => item.spoolKey == key
  | _ => false

def abandons (key : String) : SpoolEvent → Bool
  | .abandoned item => item.spoolKey == key
  | _ => false

def claimedItem : SpoolEvent → Option SpooledTelemetry
  | .claimed item => some item
  | _ => none

/-- The payload an event admits under `key`. -/
def admittedPayload (key : String) : SpoolEvent → Option String
  | .created k payload | .coalesced k payload => if k = key then some payload else none
  | _ => none

end SpoolEvent

/-- The events since the row of `key` was created. -/
def sinceCreated (key : String) (log : List SpoolEvent) : List SpoolEvent := log.takeWhile fun e => !e.creates key

/-- How often the row of `key` was claimed since it was created. -/
def claimCount (key : String) (log : List SpoolEvent) : Nat := (sinceCreated key log).countP (·.claims key)

/-- How many claims of the row of `key` were taken back since it was created. -/
def abandonCount (key : String) (log : List SpoolEvent) : Nat := (sinceCreated key log).countP (·.abandons key)

/-- Every claim ever handed out, newest first. -/
def claimedItems (log : List SpoolEvent) : List SpooledTelemetry := log.filterMap (·.claimedItem)

def lastSpoolClaim (key : String) (log : List SpoolEvent) : Option SpooledTelemetry :=
  (claimedItems log).find? (·.spoolKey == key)

/-- The newest payload admitted under `key`. -/
def newestPayload (key : String) (log : List SpoolEvent) : Option String := log.findSome? (·.admittedPayload key)

private theorem claimCount_cons (key : String) (e : SpoolEvent) (log : List SpoolEvent) :
    claimCount key (e :: log) = if e.creates key then 0 else claimCount key log + if e.claims key then 1 else 0 := by
  unfold claimCount sinceCreated
  cases hcreates : e.creates key <;> simp [hcreates, List.countP_cons]

private theorem abandonCount_cons (key : String) (e : SpoolEvent) (log : List SpoolEvent) :
    abandonCount key (e :: log) =
      if e.creates key then 0 else abandonCount key log + if e.abandons key then 1 else 0 := by
  unfold abandonCount sinceCreated
  cases hcreates : e.creates key <;> simp [hcreates, List.countP_cons]

private theorem newestPayload_cons (key : String) (e : SpoolEvent) (log : List SpoolEvent) :
    newestPayload key (e :: log) = (e.admittedPayload key).or (newestPayload key log) := by
  unfold newestPayload
  rw [List.findSome?_cons]
  cases e.admittedPayload key <;> rfl

private theorem lastSpoolClaim_cons (key : String) (e : SpoolEvent) (log : List SpoolEvent) :
    lastSpoolClaim key (e :: log) = if e.claims key then e.claimedItem else lastSpoolClaim key log := by
  cases e with
  | claimed item =>
    change (item :: claimedItems log).find? (·.spoolKey == key) = _
    rw [List.find?_cons]
    cases hkey : item.spoolKey == key <;> simp [SpoolEvent.claims, SpoolEvent.claimedItem, hkey, lastSpoolClaim]
  | created | coalesced | completed | abandoned | released | dropped => rfl

/-- No claim token is drawn twice. -/
def FreshTokens (loads : String → Option String) (s : SpoolState) (op : SpoolOp) : Prop :=
  ((claimedItems (spoolStep loads s op).log).map (·.leaseToken)).Nodup

instance (loads : String → Option String) (s : SpoolState) (op : SpoolOp) : Decidable (FreshTokens loads s op) :=
  inferInstanceAs (Decidable (List.Nodup _))

/-! ### What a row carries -/

/-- What the history says about a row of the spool. -/
structure RowHistory (row : SpoolRow) (log : List SpoolEvent) : Prop where
  attempts : row.attempts + abandonCount row.spoolKey log = claimCount row.spoolKey log
  newest : newestPayload row.spoolKey log = some row.payload
  leased : ∀ t, row.leaseOwner = some t → 1 ≤ row.attempts ∧ ∃ c, lastSpoolClaim row.spoolKey log = some c ∧
    c.leaseToken = some t ∧ c.revision = row.revision ∧ c.payload = row.payload

private theorem RowHistory.frame {row : SpoolRow} {log : List SpoolEvent} (h : RowHistory row log) {e : SpoolEvent}
    (hkey : e.key ≠ row.spoolKey) : RowHistory row (e :: log) := by
  have hsilent : e.creates row.spoolKey = false ∧ e.claims row.spoolKey = false ∧ e.abandons row.spoolKey = false ∧
      e.admittedPayload row.spoolKey = none := by
    cases e <;> simp_all [SpoolEvent.key, SpoolEvent.creates, SpoolEvent.claims, SpoolEvent.abandons,
      SpoolEvent.admittedPayload]
  obtain ⟨hcreates, hclaims, habandons, hpayload⟩ := hsilent
  constructor
  · simpa [abandonCount_cons, claimCount_cons, hcreates, hclaims, habandons] using h.attempts
  · simpa [newestPayload_cons, hpayload] using h.newest
  · simpa [lastSpoolClaim_cons, hclaims] using h.leased

def SpoolHistory (rows : Spool) (log : List SpoolEvent) : Prop :=
  ∀ row, rows.get? row.spoolKey = some row → RowHistory row log

private theorem SpoolHistory.put {rows : Spool} {log : List SpoolEvent} (h : SpoolHistory rows log) {row : SpoolRow}
    {e : SpoolEvent} (hkey : e.key = row.spoolKey) (hrow : RowHistory row (e :: log)) :
    SpoolHistory (rows.put row) (e :: log) := by
  intro row' hget
  rw [Table.get?_put] at hget
  split at hget
  · cases hget
    exact hrow
  · rename_i hne
    exact (h row' hget).frame fun he => hne (he.symm.trans hkey)

private theorem SpoolHistory.remove {rows : Spool} {log : List SpoolEvent} (h : SpoolHistory rows log)
    (e : SpoolEvent) :
    SpoolHistory (rows.remove e.key) (e :: log) := by
  intro row' hget
  rw [Table.get?_remove] at hget
  split at hget
  · cases hget
  · rename_i hne
    exact (h row' hget).frame fun he => hne he.symm

/-! ### Admission -/

private theorem rowHistory_created (request : ProcessorRequest) (payload : String) (observedAt : Time)
    (log : List SpoolEvent) :
    RowHistory (createdSpoolRow request payload observedAt) (.created request.spoolKey payload :: log) := by
  constructor
  · simp [createdSpoolRow, abandonCount_cons, claimCount_cons, SpoolEvent.creates]
  · simp [createdSpoolRow, newestPayload_cons, SpoolEvent.admittedPayload]
  · intro t ht
    cases ht

private theorem rowHistory_coalesced {existing : SpoolRow} {log : List SpoolEvent} (h : RowHistory existing log)
    (request : ProcessorRequest) (payload : String) (observedAt : Time) :
    RowHistory (coalescedRow existing request payload observedAt) (.coalesced existing.spoolKey payload :: log) := by
  constructor
  · simpa [coalescedRow, abandonCount_cons, claimCount_cons, SpoolEvent.creates, SpoolEvent.claims,
      SpoolEvent.abandons] using h.attempts
  · simp [coalescedRow, newestPayload_cons, SpoolEvent.admittedPayload]
  · intro t ht
    cases ht

private theorem spoolHistory_spoolLoop (loads : String → Option String) (limits : SpoolLimits) (observedAt : Time)
    {log : List SpoolEvent} (requests : List ProcessorRequest) (batch : SpoolBatch)
    (h : SpoolHistory batch.rows (batch.events.reverse ++ log)) :
    SpoolHistory (spoolLoop loads limits observedAt requests batch).rows
      ((spoolLoop loads limits observedAt requests batch).events.reverse ++ log) := by
  induction requests generalizing batch with
  | nil => exact h
  | cons request rest ih =>
    unfold spoolLoop
    split
    · rename_i existing hget
      have hkey : existing.spoolKey = request.spoolKey := Table.key_of_get? hget
      split
      · exact h
      · rename_i payload _
        apply ih
        rw [List.reverse_append]
        refine h.put hkey.symm ?_
        rw [← hkey]
        exact rowHistory_coalesced (h existing (hkey ▸ hget)) request payload observedAt
    · split
      · exact ih _ h
      · split
        · exact ih _ h
        · split
          · exact h
          · rename_i payload _
            apply ih
            rw [List.reverse_append]
            exact h.put rfl (rowHistory_created request payload observedAt _)

/-! ### The claim -/

private theorem rowHistory_claimed {row : SpoolRow} {log : List SpoolEvent} (h : RowHistory row log)
    (req : SpoolClaim) (now : Time) (draw : String → String) :
    RowHistory (claimedSpoolRow req now draw row)
      (.claimed (spooledTelemetry (claimedSpoolRow req now draw row)) :: log) := by
  constructor
  · have hattempts := h.attempts
    simp [claimedSpoolRow, spooledTelemetry, abandonCount_cons, claimCount_cons, SpoolEvent.creates,
      SpoolEvent.claims, SpoolEvent.abandons]
    omega
  · simpa [claimedSpoolRow, newestPayload_cons, SpoolEvent.admittedPayload] using h.newest
  · intro t ht
    refine ⟨Nat.le_add_left 1 row.attempts, spooledTelemetry (claimedSpoolRow req now draw row), ?_, ht, rfl, rfl⟩
    simp [lastSpoolClaim_cons, SpoolEvent.claims, SpoolEvent.claimedItem, spooledTelemetry]

private theorem spoolHistory_claimLoop (req : SpoolClaim) (byteLimit : Int) (now : Time) (draw : String → String)
    {log : List SpoolEvent} {rest : List SpoolRow} {rows : Spool} {claimed : List SpooledTelemetry}
    (claimedBytes : Nat)
    (hrest : ∀ row ∈ rest, rows.get? row.spoolKey = some row) (hnodup : (rest.map (·.spoolKey)).Nodup)
    (h : SpoolHistory rows ((claimed.map SpoolEvent.claimed).reverse ++ log)) :
    SpoolHistory (spoolClaimLoop req byteLimit now draw rest rows claimed claimedBytes).1
      (((spoolClaimLoop req byteLimit now draw rest rows claimed claimedBytes).2.map SpoolEvent.claimed).reverse ++
        log) := by
  induction rest generalizing rows claimed claimedBytes with
  | nil => exact h
  | cons row rest ih =>
    unfold spoolClaimLoop
    dsimp only
    split
    · exact h
    · rw [List.map_cons, List.nodup_cons] at hnodup
      refine ih _ ?_ hnodup.2 ?_
      · -- the rows still to come are other rows
        intro row' hrow'
        have hne : row'.spoolKey ≠ (claimedSpoolRow req now draw row).spoolKey := by
          intro he
          exact hnodup.1 (List.mem_map.mpr ⟨row', hrow', he⟩)
        rw [Table.get?_put_ne hne]
        exact hrest row' (List.mem_cons_of_mem _ hrow')
      · rw [List.map_append, List.reverse_append]
        exact h.put rfl (rowHistory_claimed (h row (hrest row (by simp))) req now draw)

private theorem mem_eligibleRows {rows : Spool} {req : SpoolClaim} {now : Time} {row : SpoolRow}
    (h : row ∈ eligibleRows rows req now) : rows.get? row.spoolKey = some row := by
  have hmem := List.mem_of_mem_take h
  rw [List.mem_insertionSort] at hmem
  exact Table.mem_rows.mp (List.mem_filter.mp hmem).1

private theorem nodup_eligibleRows (rows : Spool) (req : SpoolClaim) (now : Time) :
    ((eligibleRows rows req now).map (·.spoolKey)).Nodup := by
  have hfilter : ((rows.rows.filter fun row => decide (row.availableAt ≤ now) && req.path.all (row.path == ·)).map
      SpoolRow.spoolKey).Nodup := rows.nodup_rows.sublist (List.filter_sublist.map _)
  have hsort := ((List.perm_insertionSort availableBefore _).map SpoolRow.spoolKey).nodup_iff.mpr hfilter
  exact hsort.sublist ((List.take_sublist _ _).map _)

private theorem spoolHistory_claim {rows : Spool} {log : List SpoolEvent} (h : SpoolHistory rows log)
    (req : SpoolClaim) (now : Time) (draw : String → String) :
    SpoolHistory (claimTelemetrySpool rows req now draw).1
      (((claimTelemetrySpool rows req now draw).2.map SpoolEvent.claimed).reverse ++ log) := by
  unfold claimTelemetrySpool
  dsimp only
  split
  · exact h
  · split
    · exact h
    · exact spoolHistory_claimLoop req _ now draw 0 (fun row hrow => mem_eligibleRows hrow)
        (nodup_eligibleRows rows req now) h

/-! ### Answers -/

private theorem SpoolRow.accepts_token {row : SpoolRow} {item : SpooledTelemetry} (h : row.accepts item = true) :
    row.revision = item.revision ∧ ∃ t, item.leaseToken = some t ∧ row.leaseOwner = some t := by
  simp only [SpoolRow.accepts, Bool.and_eq_true, beq_iff_eq] at h
  obtain ⟨⟨hrevision, hany⟩, howner⟩ := h
  refine ⟨hrevision, ?_⟩
  cases htoken : item.leaseToken with
  | none => rw [htoken] at hany; cases hany
  | some t => exact ⟨t, rfl, howner.trans htoken⟩

/-- A loop of answers keeps the history if each accepted answer does. -/
private theorem spoolHistory_answerLoop (act : Spool → SpoolRow → SpooledTelemetry → Spool × SpoolEvent)
    (hact : ∀ {rows log row item}, SpoolHistory rows log → rows.get? item.spoolKey = some row →
      row.accepts item = true → SpoolHistory (act rows row item).1 ((act rows row item).2 :: log))
    (items : List SpooledTelemetry) {rows : Spool} {log : List SpoolEvent} (h : SpoolHistory rows log) :
    SpoolHistory (answerLoop act items rows).1 ((answerLoop act items rows).2.reverse ++ log) := by
  induction items generalizing rows log with
  | nil => exact h
  | cons item rest ih =>
    unfold answerLoop
    split
    · exact ih h
    · rename_i row hget
      split
      · rename_i haccepts
        rw [List.reverse_cons, List.append_assoc]
        exact ih (hact h hget haccepts)
      · exact ih h

private theorem rowHistory_abandoned {row : SpoolRow} {log : List SpoolEvent} (h : RowHistory row log)
    {item : SpooledTelemetry} (hkey : item.spoolKey = row.spoolKey) (haccepts : row.accepts item = true)
    (now : Time) :
    RowHistory (abandonedRow row now) (.abandoned item :: log) := by
  obtain ⟨-, t, -, howner⟩ := SpoolRow.accepts_token haccepts
  constructor
  · -- the row was claimed, so its attempts do not stop at zero
    have hpos := (h.leased t howner).1
    have hattempts := h.attempts
    simp [abandonedRow, abandonCount_cons, claimCount_cons, SpoolEvent.creates, SpoolEvent.claims,
      SpoolEvent.abandons, hkey]
    omega
  · simpa [abandonedRow, newestPayload_cons, SpoolEvent.admittedPayload] using h.newest
  · intro t' ht'
    cases ht'

private theorem rowHistory_released {row : SpoolRow} {log : List SpoolEvent} (h : RowHistory row log)
    (item : SpooledTelemetry) (now : Time) (backoff : Int) :
    RowHistory (releasedRow row now backoff) (.released item :: log) := by
  constructor
  · simpa [releasedRow, abandonCount_cons, claimCount_cons, SpoolEvent.creates, SpoolEvent.claims,
      SpoolEvent.abandons] using h.attempts
  · simpa [releasedRow, newestPayload_cons, SpoolEvent.admittedPayload] using h.newest
  · intro t ht
    cases ht

/-! ### Whole runs -/

private theorem spoolHistory_step (loads : String → Option String) (s : SpoolState) (op : SpoolOp)
    (h : SpoolHistory s.rows s.log) : SpoolHistory (spoolStep loads s op).rows (spoolStep loads s op).log := by
  cases op with
  | spool requests limits now => exact spoolHistory_spoolLoop loads limits now requests { rows := s.rows } h
  | claim req now draw => exact spoolHistory_claim h req now draw
  | complete items =>
    refine spoolHistory_answerLoop completeOne (fun {rows log row item} hrows _ _ => ?_) items h
    exact hrows.remove (.completed item)
  | abandon items now =>
    refine spoolHistory_answerLoop (abandonOne now) (fun {rows log row item} hrows hget haccepts => ?_) items h
    have hkey : row.spoolKey = item.spoolKey := Table.key_of_get? hget
    exact hrows.put hkey.symm (rowHistory_abandoned (hrows row (hkey ▸ hget)) hkey.symm haccepts now)
  | release items now backoff maxAttempts =>
    refine spoolHistory_answerLoop _ (fun {rows log row item} hrows hget _ => ?_) items h
    have hkey : row.spoolKey = item.spoolKey := Table.key_of_get? hget
    unfold releaseOne
    split
    · exact hrows.remove (.dropped item)
    · exact hrows.put hkey.symm (rowHistory_released (hrows row (hkey ▸ hget)) item now backoff)

private theorem spoolHistory_exec (loads : String → Option String) (ops : List SpoolOp) :
    SpoolHistory (Run.exec (spoolStep loads) .init ops).rows (Run.exec (spoolStep loads) .init ops).log := by
  refine Run.invariant_exec (I := fun s => SpoolHistory s.rows s.log) (P := fun _ _ => True)
    (fun s op hs _ => spoolHistory_step loads s op hs) ?_ (Run.along_true _ _)
  intro row hget
  cases hget

private theorem nodup_tokens_exec {loads : String → Option String} {ops : List SpoolOp}
    (h : Run.Along (spoolStep loads) (FreshTokens loads) .init ops) :
    ((claimedItems (Run.exec (spoolStep loads) .init ops).log).map (·.leaseToken)).Nodup := by
  refine Run.invariant_exec (I := fun s : SpoolState => ((claimedItems s.log).map (·.leaseToken)).Nodup)
    (fun _ _ _ hfresh => hfresh) ?_ h
  exact List.nodup_nil

/-! ### Removal -/

private theorem get?_spoolLoop_isSome (loads : String → Option String) (limits : SpoolLimits) (observedAt : Time)
    (requests : List ProcessorRequest) (batch : SpoolBatch) {key : String} (h : (batch.rows.get? key).isSome) :
    ((spoolLoop loads limits observedAt requests batch).rows.get? key).isSome := by
  -- a write leaves every row that was there
  have hput : ∀ {rows : Spool} (row : SpoolRow), (rows.get? key).isSome → ((rows.put row).get? key).isSome := by
    intro rows row hrow
    rw [Table.get?_put]
    split
    · rfl
    · exact hrow
  induction requests generalizing batch with
  | nil => exact h
  | cons request rest ih =>
    unfold spoolLoop
    split
    · split
      · exact h
      · exact ih _ (hput _ h)
    · split
      · exact ih _ h
      · split
        · exact ih _ h
        · split
          · exact h
          · exact ih _ (hput _ h)

private theorem get?_claimLoop_isSome (req : SpoolClaim) (byteLimit : Int) (now : Time) (draw : String → String)
    (rest : List SpoolRow) (rows : Spool) (claimed : List SpooledTelemetry) (claimedBytes : Nat) {key : String}
    (h : (rows.get? key).isSome) :
    ((spoolClaimLoop req byteLimit now draw rest rows claimed claimedBytes).1.get? key).isSome := by
  induction rest generalizing rows claimed claimedBytes with
  | nil => exact h
  | cons row rest ih =>
    unfold spoolClaimLoop
    dsimp only
    split
    · exact h
    · refine ih _ _ _ ?_
      rw [Table.get?_put]
      split
      · rfl
      · exact h

/-- What an accepted answer does: it removes the row, which it does only to a row that meets `Q`, or it hands the row
back without a token. -/
def AnswersRow (Q : SpoolRow → Prop) (act : Spool → SpoolRow → SpooledTelemetry → Spool × SpoolEvent) : Prop :=
  ∀ rows row item, (Q row ∧ (act rows row item).1 = rows.remove item.spoolKey) ∨
    ∃ row', row'.spoolKey = row.spoolKey ∧ row'.leaseOwner = none ∧ (act rows row item).1 = rows.put row'

section AnswersRow

variable {Q : SpoolRow → Prop} {act : Spool → SpoolRow → SpooledTelemetry → Spool × SpoolEvent}

private theorem AnswersRow.get?_ne (h : AnswersRow Q act) {rows : Spool} {row : SpoolRow} {item : SpooledTelemetry}
    {key : String} (hget : rows.get? item.spoolKey = some row) (hne : item.spoolKey ≠ key) :
    (act rows row item).1.get? key = rows.get? key := by
  have hkey : row.spoolKey = item.spoolKey := Table.key_of_get? hget
  rcases h rows row item with ⟨-, hremove⟩ | ⟨row', hkey', -, hput⟩
  · rw [hremove, Table.get?_remove, if_neg hne.symm]
  · rw [hput, Table.get?_put_ne]
    rw [hkey', hkey]
    exact hne.symm

/-- A row without a token accepts no answer. -/
private theorem AnswersRow.unleased (h : AnswersRow Q act) {items : List SpooledTelemetry} {rows : Spool}
    {key : String} {row : SpoolRow} (hget : rows.get? key = some row) (howner : row.leaseOwner = none) :
    (answerLoop act items rows).1.get? key = some row := by
  induction items generalizing rows with
  | nil => exact hget
  | cons item rest ih =>
    unfold answerLoop
    split
    · exact ih hget
    · rename_i row' hget'
      split
      · rename_i haccepts
        refine ih ?_
        rw [h.get?_ne hget', hget]
        rintro rfl
        rw [hget] at hget'
        cases hget'
        obtain ⟨-, t, -, ht⟩ := SpoolRow.accepts_token haccepts
        rw [howner] at ht
        cases ht
      · exact ih hget

/-- A row that a loop of answers removes accepted an item of the loop, as it was before the loop. -/
private theorem AnswersRow.removed (h : AnswersRow Q act) {items : List SpooledTelemetry} {rows : Spool}
    {key : String} {row : SpoolRow} (hget : rows.get? key = some row)
    (hgone : (answerLoop act items rows).1.get? key = none) :
    ∃ item ∈ items, item.spoolKey = key ∧ row.accepts item = true ∧ Q row := by
  induction items generalizing rows with
  | nil =>
    have hnone : rows.get? key = none := hgone
    rw [hget] at hnone
    cases hnone
  | cons item rest ih =>
    have hrest : ∀ {rows' : Spool}, rows'.get? key = some row → (answerLoop act rest rows').1.get? key = none →
        ∃ item' ∈ item :: rest, item'.spoolKey = key ∧ row.accepts item' = true ∧ Q row := by
      intro rows' hget' hgone'
      obtain ⟨item', hmem, hitem'⟩ := ih hget' hgone'
      exact ⟨item', List.mem_cons_of_mem _ hmem, hitem'⟩
    unfold answerLoop at hgone
    split at hgone
    · exact hrest hget hgone
    · rename_i row' hget'
      split at hgone
      · rename_i haccepts
        by_cases hkey : item.spoolKey = key
        · subst hkey
          rw [hget] at hget'
          cases hget'
          rcases h rows row item with ⟨hq, -⟩ | ⟨row'', hkey'', howner'', hput⟩
          · exact ⟨item, by simp, rfl, haccepts, hq⟩
          · -- a row that was handed back is still there at the end
            have hkeep : (act rows row item).1.get? item.spoolKey = some row'' := by
              have hrow : row''.spoolKey = item.spoolKey := hkey''.trans (Table.key_of_get? hget)
              rw [hput, ← hrow]
              exact Table.get?_put_self _ _
            have hstay : (answerLoop act rest (act rows row item).1).1.get? item.spoolKey = some row'' :=
              h.unleased hkeep howner''
            rw [hgone] at hstay
            cases hstay
        · exact hrest ((h.get?_ne hget' hkey).trans hget) hgone
      · exact hrest hget hgone

end AnswersRow

private theorem answers_complete : AnswersRow (fun _ => True) completeOne := fun _ _ _ => Or.inl ⟨trivial, rfl⟩

private theorem answers_abandon (now : Time) : AnswersRow (fun _ => False) (abandonOne now) :=
  fun _ row _ => Or.inr ⟨abandonedRow row now, rfl, rfl, rfl⟩

private theorem answers_release (now : Time) (backoff : Int) (limit : Nat) :
    AnswersRow (fun row => limit ≤ row.attempts) (releaseOne now backoff limit) := by
  intro rows row item
  unfold releaseOne
  split
  · rename_i hlimit
    exact Or.inl ⟨hlimit, rfl⟩
  · exact Or.inr ⟨releasedRow row now backoff, rfl, rfl, rfl⟩

/-- The items an operation answers that removes the row: a completion, or a release of a row out of attempts. -/
inductive SpoolRemoval (row : SpoolRow) : SpoolOp → List SpooledTelemetry → Prop
  | complete (items : List SpooledTelemetry) : SpoolRemoval row (.complete items) items
  | exhausted (items : List SpooledTelemetry) (now : Time) (backoff : Int) (maxAttempts : Option Nat)
      (hlimit : maxAttempts.getD telemetrySpoolMaxAttempts ≤ row.attempts) :
      SpoolRemoval row (.release items now backoff maxAttempts) items

/-- Only an accepted completion or exhausted release removes a row. -/
private theorem removal_of_gone {loads : String → Option String} {s : SpoolState} {op : SpoolOp} {key : String}
    {row : SpoolRow} (hget : s.rows.get? key = some row) (hgone : (spoolStep loads s op).rows.get? key = none) :
    ∃ items, SpoolRemoval row op items ∧ ∃ item ∈ items, item.spoolKey = key ∧ row.accepts item = true := by
  have hsome : (s.rows.get? key).isSome := by rw [hget]; rfl
  cases op with
  | spool requests limits now =>
    have hkept := get?_spoolLoop_isSome loads limits now requests { rows := s.rows } hsome
    have hnone : (spoolLoop loads limits now requests { rows := s.rows }).rows.get? key = none := hgone
    rw [hnone] at hkept
    cases hkept
  | claim req now draw =>
    have hkept : ((claimTelemetrySpool s.rows req now draw).1.get? key).isSome := by
      unfold claimTelemetrySpool
      dsimp only
      split_ifs
      · exact hsome
      · exact hsome
      · exact get?_claimLoop_isSome req _ now draw _ _ _ _ hsome
    have hnone : (claimTelemetrySpool s.rows req now draw).1.get? key = none := hgone
    rw [hnone] at hkept
    cases hkept
  | complete items =>
    obtain ⟨item, hmem, hkey, haccepts, -⟩ := answers_complete.removed hget hgone
    exact ⟨items, .complete items, item, hmem, hkey, haccepts⟩
  | abandon items now =>
    obtain ⟨item, -, -, -, hq⟩ := (answers_abandon now).removed hget hgone
    exact hq.elim
  | release items now backoff maxAttempts =>
    obtain ⟨item, hmem, hkey, haccepts, hlimit⟩ := (answers_release now backoff _).removed hget hgone
    exact ⟨items, .exhausted items now backoff maxAttempts hlimit, item, hmem, hkey, haccepts⟩

/-- Fencing of the telemetry spool, in every run that draws no claim token twice. The attempts of a row are its claims
less its accepted abandons since the row was created. A row goes only by a completion, or by a release of a row out of
attempts, and the item that did it carries the token of the last claim of that key; that claim took the revision and
the payload that are stored now, the payload is the newest one admitted under the key, and no other claim ever made
has that token. -/
theorem telemetry_spool_fenced {loads : String → Option String} {ops : List SpoolOp}
    (h : Run.Along (spoolStep loads) (FreshTokens loads) .init ops) :
    let s := Run.exec (spoolStep loads) .init ops
    (∀ row ∈ s.rows.rows, row.attempts + abandonCount row.spoolKey s.log = claimCount row.spoolKey s.log) ∧
    (∀ op key row, s.rows.get? key = some row → (spoolStep loads s op).rows.get? key = none →
      ∃ items, SpoolRemoval row op items ∧ ∃ item ∈ items, ∃ c, item.spoolKey = key ∧ item.revision = row.revision ∧
        lastSpoolClaim key s.log = some c ∧ item.leaseToken = c.leaseToken ∧ item.leaseToken ≠ none ∧
        c.revision = row.revision ∧ c.payload = row.payload ∧ newestPayload key s.log = some row.payload ∧
        ∀ c' ∈ claimedItems s.log, c'.leaseToken = item.leaseToken → c' = c) := by
  intro s
  have hs : SpoolHistory s.rows s.log := spoolHistory_exec loads ops
  have hnodup : ((claimedItems s.log).map (·.leaseToken)).Nodup := nodup_tokens_exec h
  refine ⟨fun row hrow => (hs row (Table.mem_rows.mp hrow)).attempts, ?_⟩
  intro op key row hget hgone
  obtain ⟨items, hremoval, item, hmem, hkey, haccepts⟩ := removal_of_gone hget hgone
  have hrowKey : row.spoolKey = key := Table.key_of_get? hget
  subst hrowKey
  obtain ⟨hrevision, t, htoken, howner⟩ := SpoolRow.accepts_token haccepts
  obtain ⟨-, c, hlast, hctoken, hcrevision, hcpayload⟩ := (hs row hget).leased t howner
  have hsame : item.leaseToken = c.leaseToken := htoken.trans hctoken.symm
  refine ⟨items, hremoval, item, hmem, c, hkey, hrevision.symm, hlast, hsame, by simp [htoken], hcrevision, hcpayload,
    (hs row hget).newest, ?_⟩
  intro c' hc' htoken'
  exact List.inj_on_of_nodup_map hnodup hc' (List.mem_of_find?_eq_some hlast) (htoken'.trans hsame)

/-- Two samples of one node; the first is claimed and superseded before its consumer answers. -/
private def inventorySample (requestId bodyBase64 : String) : ProcessorRequest where
  requestId := requestId
  path := "/v1/collector-events/gpu-inventory"
  bodyBase64 := bodyBase64
  clusterId := some "c"
  orderingKey := "c"
  queuePriority := 100
  latestWins := true

private def firstPayload : String := "\x7b\"a\":1\x7d"

private def secondPayload : String := "\x7b\"a\":2\x7d"

private def loadsSample (bodyBase64 : String) : Option String :=
  if bodyBase64 = "eyJhIjoxfQ==" then some firstPayload
  else if bodyBase64 = "eyJhIjoyfQ==" then some secondPayload
  else none

private def sampleKey : String := "/v1/collector-events/gpu-inventory|c"

private def sampleClaim (requestId payload token : String) (revision attempts : Nat) : SpooledTelemetry where
  spoolKey := sampleKey
  revision := revision
  clusterId := some "c"
  path := "/v1/collector-events/gpu-inventory"
  requestId := requestId
  attempts := attempts
  createdAt := 0
  payload := payload
  payloadBytes := 7
  leaseToken := some token

private def supersededSample : List SpoolOp :=
  [.spool [inventorySample "r1" "eyJhIjoxfQ=="] ⟨10, 10⟩ 0, .claim ⟨"a", 10, 5, none, none⟩ 1 fun _ => "u1",
   .spool [inventorySample "r2" "eyJhIjoyfQ=="] ⟨10, 10⟩ 2, .complete [sampleClaim "r1" firstPayload "a:u1" 0 1],
   .claim ⟨"b", 10, 5, none, none⟩ 3 fun _ => "u2"]

theorem newest_sample_completed_by_last_claim :
    let s := Run.exec (spoolStep loadsSample) .init supersededSample
    Run.Along (spoolStep loadsSample) (FreshTokens loadsSample) .init supersededSample ∧
    (∃ row, s.rows.get? sampleKey = some row ∧ row.payload = secondPayload ∧ row.attempts = 2) ∧
    (spoolStep loadsSample s (.complete [sampleClaim "r2" secondPayload "b:u2" 1 2])).rows.get? sampleKey = none ∧
    ∃ c, lastSpoolClaim sampleKey s.log = some c ∧ c.payload = secondPayload ∧
      ∀ c' ∈ claimedItems s.log, c'.leaseToken = some "b:u2" → c' = c := by
  intro s
  have hrun : Run.Along (spoolStep loadsSample) (FreshTokens loadsSample) .init supersededSample := by decide +kernel
  have hrow : ∃ row, s.rows.get? sampleKey = some row ∧ row.payload = secondPayload ∧ row.attempts = 2 :=
    ⟨⟨sampleKey, some "c", "/v1/collector-events/gpu-inventory", "r2", 1, 2, some "b:u2", 13, 0, 3, secondPayload⟩,
      by decide +kernel, rfl, rfl⟩
  have hgone : (spoolStep loadsSample s (.complete [sampleClaim "r2" secondPayload "b:u2" 1 2])).rows.get?
      sampleKey = none := by decide +kernel
  refine ⟨hrun, hrow, hgone, ?_⟩
  obtain ⟨row, hget, hpayload, -⟩ := hrow
  obtain ⟨items, hremoval, item, hmem, c, -, -, hlast, -, -, -, hcpayload, -, hunique⟩ :=
    (@telemetry_spool_fenced loadsSample supersededSample hrun).2 _ sampleKey row hget hgone
  cases hremoval
  have hitem : item = sampleClaim "r2" secondPayload "b:u2" 1 2 := by simpa using hmem
  subst hitem
  exact ⟨c, hlast, hcpayload.trans hpayload, hunique⟩

end GpuFaultRecovery
