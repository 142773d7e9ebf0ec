import GpuFaultRecovery.BatchedCommand

/-!
# Runs of compound commands

`batchStep` is one step of the world: an operation of the control plane on the store, an event in one claimed copy, or
a message of a claimed copy reaching the store, any number of times and in any order. While a row is leased, the copy
its lease belongs to knows every step the row has as succeeded; so a report that carries the entries of its copy loses
none. Reports that carry no entries are the exception.
-/

namespace GpuFaultRecovery

open CommandStore

/-- Whether only an executor that holds a claimed copy calls the operation. -/
def CommandOp.fromSession : CommandOp → Bool
  | .recordProgress .. | .complete .. => true
  | _ => false

/-- The store and the claimed copies. Every claim draws a new random token, so a copy is named by its command and its
token. -/
structure BatchWorld where
  store : CommandStore
  sessions : String → String → Option Session

namespace BatchWorld

def empty : BatchWorld := ⟨.empty, fun _ _ => none⟩

end BatchWorld

inductive BatchOp where
  | store (op : CommandOp) (h : op.fromSession = false)
  | session (id token : String) (event : SessionEvent)
  | postProgress (id token : String) (n : Nat) (executorId : String) (now : Time)
  | report (id token : String) (now : Time)

/-- The claimed copies after an operation of the control plane: a claim opens one for each command it leases. -/
def openedSessions (w : BatchWorld) (op : CommandOp) (id token : String) : Option Session :=
  match op with
  | .claim req now grants =>
    match (w.store.claimedCommands req now grants).find? fun command => command.commandId == id with
    | some claimed => if claimed.leaseToken = some token then some (.start claimed) else w.sessions id token
    | none => w.sessions id token
  | _ => w.sessions id token

def setSession (w : BatchWorld) (id token : String) (s : Session) : BatchWorld :=
  { w with sessions := fun id' token' => if id' = id ∧ token' = token then some s else w.sessions id' token' }

def batchStep (w : BatchWorld) : BatchOp → BatchWorld
  | .store op _ => ⟨commandStep w.store op, openedSessions w op⟩
  | .session id token event =>
    match w.sessions id token with
    | some s => setSession w id token (s.next event)
    | none => w
  | .postProgress id token n executorId now =>
    match w.sessions id token with
    | some s =>
      match s.outbox[n]? with
      | some entry =>
        { w with store := commandStep w.store (.recordProgress s.claimed.clusterId id executorId token [entry] now) }
      | none => w
    | none => w
  | .report id token now =>
    match w.sessions id token with
    | some s =>
      match s.verdict with
      | some (_, result) =>
        { w with store := commandStep w.store (.complete s.claimed.clusterId id (result.report token) now) }
      | none => w
    | none => w

/-- The record says that the step under `key` succeeded. -/
def CarriesSuccess (details : Details) (key : String) : Prop :=
  succeededEntry ((entriesOf details).get? key) = true

instance (details : Details) (key : String) : Decidable (CarriesSuccess details key) :=
  inferInstanceAs (Decidable (_ = true))

/-- A report that carries no entries (the executor gave up on the command, or refused it before its steps ran) meets a
row that has none to lose. -/
def NothingToLose (w : BatchWorld) : BatchOp → Prop
  | .report id token _ => ∀ s reporter result row, w.sessions id token = some s →
      s.verdict = some (reporter, result) →
      reporter = .executionTimeout ∨ reporter = .dispatchFailure → w.store.commands.get? id = some row →
      row.leaseToken = some token → ∀ key, ¬ CarriesSuccess row.resultDetails key
  | _ => True

/-! ### Entries -/

theorem succeededEntry_some {entry : Option Json} (h : succeededEntry entry = true) :
    ∃ fields, entry = some (.obj fields) ∧
      List.lookup "status" fields = some (.str RemoteCommandStatus.succeeded.value) := by
  unfold succeededEntry at h
  split at h
  · rename_i fields
    exact ⟨fields, rfl, by simpa using h⟩
  · cases h

theorem entriesOf_of_get? {details entries : Details} (h : details.get? batchedResultsKey = some (.obj entries)) :
    entriesOf details = entries := by
  simp [entriesOf, h]

private theorem entriesOf_congr {d e : Details} (h : d.get? batchedResultsKey = e.get? batchedResultsKey) :
    entriesOf d = entriesOf e := by
  simp [entriesOf, h]

private theorem entriesOf_merge (d : Details) {e : Details} (h : ∀ kv ∈ e, kv.1 ≠ batchedResultsKey) :
    entriesOf (d.merge e) = entriesOf d :=
  entriesOf_congr (Details.get?_merge_of_forall_ne d h)

theorem entriesOf_set_ne (d : Details) {key : String} (value : Json) (h : batchedResultsKey ≠ key) :
    entriesOf (d.set key value) = entriesOf d :=
  entriesOf_congr (Details.get?_set_ne d value h)

theorem entriesOf_set_self (d entries : Details) : entriesOf (d.set batchedResultsKey (.obj entries)) = entries :=
  entriesOf_of_get? (Details.get?_set_self d _ _)

private theorem entriesOf_mergedBatchedResults (d : Details) (kv : String × Json) :
    entriesOf (mergedBatchedResults d [kv]) = (entriesOf d).set kv.1 kv.2 := by
  unfold mergedBatchedResults
  rw [entriesOf_set_self]
  rfl

/-- Dropping malformed entries keeps the ones that say success. -/
private theorem succeededEntry_priorResults {command : RemoteActionCommand} {key : String}
    (h : CarriesSuccess command.resultDetails key) : succeededEntry ((priorResults command).get? key) = true := by
  obtain ⟨fields, hentry, hstatus⟩ := succeededEntry_some h
  suffices hkept : (priorResults command).get? key = some (.obj fields) by
    rw [hkept]
    simpa [succeededEntry] using hstatus
  unfold priorResults Details.get? at *
  generalize entriesOf command.resultDetails = entries at hentry
  induction entries with
  | nil => cases hentry
  | cons kv entries ih =>
    obtain ⟨k, value⟩ := kv
    rw [List.lookup_cons] at hentry
    by_cases hk : (key == k) = true
    · simp only [hk] at hentry
      cases hentry
      simp [Json.isObject, hk, List.lookup_cons]
    · simp only [hk] at hentry
      rw [List.filter_cons]
      split
      · rw [List.lookup_cons]
        simp only [hk]
        exact ih hentry
      · exact ih hentry

/-! ### One claimed copy -/

/-- The copy knows that the step under `key` succeeded: the row said so when it was claimed, or the copy posted it. -/
def Session.Knows (s : Session) (key : String) : Prop :=
  CarriesSuccess s.claimed.resultDetails key ∨ ∃ value, (key, value) ∈ s.outbox ∧ succeededEntry (some value) = true

/-- The verdicts that carry the entries of their copy. -/
def Reporter.carriesEntries : Reporter → Bool
  | .executionTimeout | .dispatchFailure => false
  | _ => true

private theorem Reporter.eq_of_not_carriesEntries {reporter : Reporter} (h : ¬ reporter.carriesEntries = true) :
    reporter = .executionTimeout ∨ reporter = .dispatchFailure := by
  cases reporter <;> simp_all [Reporter.carriesEntries]

/-- What holds of a claimed copy at any time: its entries keep what the row had and what was posted, only successes
are posted while the run goes on, and a verdict that carries entries carries all of them. -/
structure SessionOk (s : Session) : Prop where
  early : s.phase = .admission ∨ s.phase = .dispatching → s.outbox = []
  kept : ∀ key, CarriesSuccess s.claimed.resultDetails key → succeededEntry (s.results.get? key) = true
  posted : ∀ kv ∈ s.outbox, s.results.get? kv.1 = some kv.2
  running : ∀ remaining, s.phase = .running remaining → ∀ kv ∈ s.outbox, succeededEntry (some kv.2) = true
  verdict : ∀ reporter result, s.verdict = some (reporter, result) → reporter.carriesEntries = true →
    s.claimed.batchedSteps ≠ [] → s.phase = .finished ∧ ∀ key, s.Knows key → CarriesSuccess result.details key

namespace SessionOk

variable {s : Session}

private theorem start (claimed : RemoteActionCommand) : SessionOk (.start claimed) where
  early := fun _ => rfl
  kept := fun _ h => succeededEntry_priorResults h
  posted := by simp [Session.start]
  running := by simp [Session.start]
  verdict := by simp [Session.start]

private theorem known (h : SessionOk s) {key : String} (hknows : s.Knows key) :
    succeededEntry (s.results.get? key) = true := by
  rcases hknows with hclaimed | ⟨value, hmem, hvalue⟩
  · exact h.kept key hclaimed
  · rw [h.posted _ hmem]
    exact hvalue

private theorem knows_early (h : SessionOk s) (hphase : s.phase = .admission ∨ s.phase = .dispatching) {key : String}
    (hknows : s.Knows key) : CarriesSuccess s.claimed.resultDetails key := by
  rcases hknows with hclaimed | ⟨value, hmem, -⟩
  · exact hclaimed
  · rw [h.early hphase] at hmem
    cases hmem

private theorem no_verdict (h : SessionOk s) (hphase : s.phase ≠ .finished) {reporter : Reporter}
    {result : StepResult} (hverdict : s.verdict = some (reporter, result)) (hcompound : s.claimed.batchedSteps ≠ []) :
    reporter.carriesEntries = false := by
  by_contra hcarries
  exact hphase (h.verdict reporter result hverdict (by simpa using hcarries) hcompound).1

/-- The worker ends: the verdict is the one that was there, which carries no entries, or the new one. -/
private theorem of_finish
    (hkept : ∀ key, CarriesSuccess s.claimed.resultDetails key → succeededEntry (s.results.get? key) = true)
    (hposted : ∀ kv ∈ s.outbox, s.results.get? kv.1 = some kv.2)
    (hverdict : ∀ reporter result, s.verdict = some (reporter, result) → s.claimed.batchedSteps ≠ [] →
      reporter.carriesEntries = false)
    {reporter : Reporter} {result : StepResult}
    (hresult : reporter.carriesEntries = true → s.claimed.batchedSteps ≠ [] →
      ∀ key, s.Knows key → CarriesSuccess result.details key) : SessionOk (s.finish reporter result) where
  early := by simp [Session.finish]
  kept := hkept
  posted := hposted
  running := by simp [Session.finish]
  verdict := by
    intro reporter' result' hv hcarries hcompound
    refine ⟨rfl, ?_⟩
    cases hs : s.verdict with
    | some v =>
      have hsame : v = (reporter', result') := by simpa [Session.finish, Session.conclude, hs] using hv
      rw [hsame] at hs
      rw [hverdict reporter' result' hs hcompound] at hcarries
      cases hcarries
    | none =>
      have hsame : (reporter, result) = (reporter', result') := by
        simpa [Session.finish, Session.conclude, hs] using hv
      cases hsame
      exact hresult hcarries hcompound

private theorem finish (h : SessionOk s) (hphase : s.phase ≠ .finished) {reporter : Reporter} {result : StepResult}
    (hresult : reporter.carriesEntries = true → s.claimed.batchedSteps ≠ [] →
      ∀ key, s.Knows key → CarriesSuccess result.details key) : SessionOk (s.finish reporter result) :=
  of_finish h.kept h.posted (fun _ _ hv hcompound => h.no_verdict hphase hv hcompound) hresult

private theorem conclude_timeout (h : SessionOk s) (hphase : s.phase ≠ .finished) (result : StepResult) :
    SessionOk (s.conclude .executionTimeout result) where
  early := h.early
  kept := h.kept
  posted := h.posted
  running := h.running
  verdict := by
    intro reporter' result' hverdict hcarries hcompound
    cases hs : s.verdict with
    | some v =>
      have hv : v = (reporter', result') := by simpa [Session.conclude, hs] using hverdict
      rw [hv] at hs
      rw [h.no_verdict hphase hs hcompound] at hcarries
      cases hcarries
    | none =>
      have hv : Reporter.executionTimeout = reporter' := by
        have := hverdict
        simp only [Session.conclude, hs, Option.none_or, Option.some.injEq, Prod.mk.injEq] at this
        exact this.1
      subst hv
      cases hcarries

private theorem advance (h : SessionOk s) (hphase : s.phase ≠ .finished) (phase : WorkerPhase)
    (hnext : phase ≠ .admission) (hposts : ∀ kv ∈ s.outbox, succeededEntry (some kv.2) = true)
    (hearly : phase = .dispatching → s.outbox = []) : SessionOk { s with phase := phase } where
  early := by
    intro hp
    rcases hp with hp | hp
    · exact absurd hp hnext
    · exact hearly hp
  kept := h.kept
  posted := h.posted
  running := fun _ _ => hposts
  verdict := by
    intro reporter result hverdict hcarries hcompound
    rw [h.no_verdict hphase hverdict hcompound] at hcarries
    cases hcarries

private theorem carries (h : SessionOk s) {details : Details} (hentries : entriesOf details = s.results)
    {key : String} (hknows : s.Knows key) : CarriesSuccess details key := by
  rw [CarriesSuccess, hentries]
  exact h.known hknows

/-- A new verdict on a step: nothing the copy knows is overwritten, since a step known to have succeeded is
skipped. -/
private theorem judge (h : SessionOk s) {remaining : List (Nat × WorkflowStepSpec)}
    (hphase : s.phase = .running remaining) {key : String} (hopen : succeededEntry (s.results.get? key) ≠ true)
    (result : StepResult) :
    let s' := { s with results := s.results.set key result.entry, outbox := s.outbox ++ [(key, result.entry)] }
    (∀ k, CarriesSuccess s.claimed.resultDetails k → succeededEntry (s'.results.get? k) = true) ∧
    (∀ kv ∈ s'.outbox, s'.results.get? kv.1 = some kv.2) := by
  intro s'
  have hother : ∀ k, k ≠ key → s'.results.get? k = s.results.get? k :=
    fun k hk => Details.get?_set_ne s.results result.entry hk
  constructor
  · intro k hk
    have hresult := h.kept k hk
    have hne : k ≠ key := by
      rintro rfl
      exact hopen hresult
    rw [hother k hne]
    exact hresult
  · intro kv hkv
    rcases List.mem_append.mp hkv with hold | hnew
    · have hne : kv.1 ≠ key := by
        intro he
        have hsucceeded := h.running remaining hphase kv hold
        rw [← h.posted kv hold, he] at hsucceeded
        exact hopen hsucceeded
      rw [hother _ hne]
      exact h.posted kv hold
    · rw [List.mem_singleton.mp hnew]
      exact Details.get?_set_self s.results key result.entry

private theorem turn (h : SessionOk s) {remaining : List (Nat × WorkflowStepSpec)}
    (hphase : s.phase = .running remaining) (judgement : StepJudgement) :
    SessionOk (s.afterTurn (executeBatchedTurn s.claimed s.results judgement remaining)) := by
  have hgoing : s.phase ≠ .finished := by rw [hphase]; simp
  have hfinish : ∀ result : StepResult, entriesOf result.details = s.results →
      SessionOk (Session.finish s .batchedRun result) :=
    fun result hentries => h.finish hgoing fun _ _ key hknows => h.carries hentries hknows
  cases remaining with
  | nil =>
    simp only [executeBatchedTurn, Session.afterTurn, List.append_nil]
    exact hfinish _ (entriesOf_of_get? rfl)
  | cons item rest =>
    obtain ⟨index, step⟩ := item
    by_cases hdone : succeededEntry (s.results.get? (toString index)) = true
    · simp only [executeBatchedTurn, hdone, if_true, Session.afterTurn, List.append_nil]
      exact h.advance hgoing _ (by simp) (h.running _ hphase) (by simp)
    · simp only [executeBatchedTurn, hdone, if_false, Bool.false_eq_true]
      cases judgement with
      | leaseHeld reason =>
        simp only [Session.afterTurn, List.append_nil]
        exact hfinish _ (entriesOf_of_get? rfl)
      | preflightHeld details =>
        simp only [Session.afterTurn, List.append_nil]
        refine hfinish _ ?_
        simp only [StepResult.waiting]
        rw [entriesOf_set_ne _ _ (by decide), entriesOf_set_self]
      | verdict result =>
        obtain ⟨hkept, hposted⟩ := h.judge hphase hdone result
        have hknown : ∀ key, Session.Knows { s with outbox := s.outbox ++ [(toString index, result.entry)] } key →
            succeededEntry ((s.results.set (toString index) result.entry).get? key) = true := by
          intro key hknows
          rcases hknows with hclaimed | ⟨value, hmem, hvalue⟩
          · exact hkept key hclaimed
          · rw [hposted _ hmem]
            exact hvalue
        have hverdict : ∀ reporter r, s.verdict = some (reporter, r) → s.claimed.batchedSteps ≠ [] →
            reporter.carriesEntries = false := fun reporter r hv hcompound => h.no_verdict hgoing hv hcompound
        dsimp only
        split
        · rename_i hsucceeded
          -- the run goes on: the new post says success
          simp only [Session.afterTurn]
          refine ⟨by simp, hkept, hposted, ?_, ?_⟩
          · intro _ _ kv hkv
            rcases List.mem_append.mp hkv with hold | hnew
            · exact h.running _ hphase kv hold
            · rw [List.mem_singleton.mp hnew]
              simp [StepResult.entry, succeededEntry, hsucceeded]
          · intro reporter r hv hcarries hcompound
            rw [hverdict reporter r hv hcompound] at hcarries
            cases hcarries
        · simp only [Session.afterTurn]
          refine of_finish hkept hposted hverdict fun _ _ key hknows => ?_
          rw [CarriesSuccess, entriesOf_set_ne _ _ (by decide), entriesOf_set_ne _ _ (by decide), entriesOf_set_self]
          exact hknown key hknows

/-- Whatever happens in a claimed copy keeps it in order. -/
private theorem next (h : SessionOk s) (event : SessionEvent) : SessionOk (s.next event) := by
  unfold Session.next
  have hmerge : ∀ {details : Details}, (∀ kv ∈ details, kv.1 ≠ batchedResultsKey) →
      (s.phase = .admission ∨ s.phase = .dispatching) → ∀ key, s.Knows key →
      CarriesSuccess (s.claimed.resultDetails.merge details) key := by
    intro details hother hphase key hknows
    rw [CarriesSuccess, entriesOf_merge _ hother]
    exact h.knows_early hphase hknows
  split
  · rename_i reason hphase
    refine h.finish (by rw [hphase]; simp) fun _ _ => ?_
    exact hmerge (by simp [batchedResultsKey]) (Or.inl hphase)
  · rename_i hphase
    exact h.finish (by rw [hphase]; simp) fun _ _ key hknows => h.knows_early (Or.inl hphase) hknows
  · rename_i hphase
    have hnone := h.early (Or.inl hphase)
    exact h.advance (by rw [hphase]; simp) _ (by simp) (by simp [hnone]) fun _ => hnone
  · rename_i failure hphase
    refine h.finish (by rw [hphase]; simp) fun hcarries _ => ?_
    cases failure with
    | rejected | misconfigured | internalError => simp [DispatchFailure.final, Reporter.carriesEntries] at hcarries
    | barrierUnavailable | retryableTransport | retryableAdapter | retryableControlPlane =>
      exact hmerge (by simp [batchedResultsKey]) (Or.inr hphase)
  · rename_i result hphase
    split
    · rename_i hsingle
      exact h.finish (by rw [hphase]; simp) fun _ hcompound => absurd (List.isEmpty_iff.mp hsingle) hcompound
    · exact h
  · rename_i hphase
    split
    · exact h
    · have hnone := h.early (Or.inr hphase)
      exact h.advance (by rw [hphase]; simp) _ (by simp) (by simp [hnone]) (by simp)
  · rename_i remaining judgement hphase
    exact h.turn hphase judgement
  · rename_i capMillis hphase
    exact h.conclude_timeout (by rw [hphase]; simp) _
  · rename_i remaining capMillis hphase
    exact h.conclude_timeout (by rw [hphase]; simp) _
  · exact h

end SessionOk

private theorem Session.next_claimed (s : Session) (event : SessionEvent) : (s.next event).claimed = s.claimed := by
  unfold next
  split <;> try rfl
  · split <;> rfl
  · split <;> rfl
  · unfold afterTurn
    split <;> rfl

private theorem Session.next_outbox (s : Session) (event : SessionEvent) : s.outbox ⊆ (s.next event).outbox := by
  unfold next
  split <;> try exact List.Subset.refl _
  · split <;> exact List.Subset.refl _
  · split <;> exact List.Subset.refl _
  · unfold afterTurn
    split <;> exact List.subset_append_left _ _

private theorem Session.Knows.next {s : Session} {key : String} (h : s.Knows key) (event : SessionEvent) :
    (s.next event).Knows key := by
  rcases h with hclaimed | ⟨value, hmem, hvalue⟩
  · exact Or.inl (by rw [s.next_claimed]; exact hclaimed)
  · exact Or.inr ⟨value, s.next_outbox event hmem, hvalue⟩

/-! ### The row of a command -/

private theorem renewedUpdate_record (c : RemoteActionCommand) (workflow : Option WorkflowRequest)
    (deadline now : Time) :
    (renewedUpdate c workflow deadline now).batchedSteps = c.batchedSteps ∧
      (renewedUpdate c workflow deadline now).resultDetails = c.resultDetails := by
  unfold renewedUpdate
  split
  · exact ⟨rfl, rfl⟩
  · dsimp only
    split <;> exact ⟨rfl, rfl⟩

private theorem entriesOf_staleFenceDetails (c : RemoteActionCommand) (result : Option RemoteCommandResult)
    (swept : Bool) : entriesOf (staleFenceDetails c result swept) =
      entriesOf ((result.map RemoteCommandResult.details).getD c.resultDetails) := by
  have hswept : ∀ d :
      Details, entriesOf (if swept then d.set "stale_fence_swept" (.bool true) else d) = entriesOf d := by
    intro d
    split
    · exact entriesOf_set_ne d _ (by decide)
    · rfl
  unfold staleFenceDetails
  rw [hswept]
  cases result with
  | none => rfl
  | some r => exact entriesOf_merge _ (by simp [batchedResultsKey])

/-- What an operation does to the entries of a row: it keeps them, adds a progress post made under the lease of the
row, or puts those of a report made under that lease in their place. -/
private theorem RowStep.entries {st : CommandStore} {op : CommandOp} {id : String} {c c' : RemoteActionCommand}
    (h : RowStep st op id (some c) (some c')) :
    c'.batchedSteps = c.batchedSteps ∧
    (entriesOf c'.resultDetails = entriesOf c.resultDetails ∨
      (∃ clusterId executorId token results now, op = .recordProgress clusterId id executorId token results now ∧
        c.leaseToken = some token ∧ c'.resultDetails = mergedBatchedResults c.resultDetails results) ∨
      ∃ clusterId result now, op = .complete clusterId id result now ∧ c.leaseToken = some result.leaseToken ∧
        c'.leaseToken = none ∧ entriesOf c'.resultDetails = entriesOf result.details) := by
  cases h with
  | kept | leased | cancelled | marked => exact ⟨rfl, Or.inl rfl⟩
  | progressed _ details now hnone hleased hop =>
    obtain ⟨clusterId, executorId, token, results, hop, htoken, rfl⟩ := hop
    exact ⟨rfl, Or.inr (Or.inl ⟨clusterId, executorId, token, results, now, hop, htoken, rfl⟩)⟩
  | renewed _ deadline now =>
    obtain ⟨hsteps, hdetails⟩ := renewedUpdate_record c (st.owner c) deadline now
    exact ⟨hsteps, Or.inl (by rw [hdetails])⟩
  | completed _ clusterId result now hop hfence hlease =>
    refine ⟨rfl, Or.inr (Or.inr ⟨clusterId, result, now, hop, ?_, rfl, ?_⟩)⟩
    · simp only [completable, Bool.and_eq_true, beq_iff_eq] at hlease
      exact hlease.1.1.2
    · simp only [completedUpdate]
      split
      · exact entriesOf_merge _ (by simp [batchedResultsKey])
      · rfl
  | fenced _ _ w now result swept hnone hopen hupdate hop =>
    unfold staleFenceUpdate at hupdate
    split at hupdate
    · cases hupdate
    · rename_i hforeign
      cases hupdate
      refine ⟨rfl, ?_⟩
      rw [entriesOf_staleFenceDetails]
      cases result with
      | none => exact Or.inl rfl
      | some r =>
        obtain ⟨clusterId, hop⟩ := hop r rfl
        refine Or.inr (Or.inr ⟨clusterId, r, now, hop, ?_, rfl, rfl⟩)
        simp only [foreignResult, Bool.or_eq_true, not_or, bne_iff_ne, not_not] at hforeign
        exact hforeign.1.2
  | expired _ now =>
    exact ⟨rfl, Or.inl (entriesOf_merge _ (by simp [batchedResultsKey]))⟩

/-- A leased row was leased under the same token before the step, or is leased by it. -/
private theorem RowStep.lease {st : CommandStore} {op : CommandOp} {id token : String}
    {row : Option RemoteActionCommand} {c' : RemoteActionCommand} (h : RowStep st op id row (some c'))
    (htoken : c'.leaseToken = some token) :
    grantedToken st op id = some token ∨
      ∃ c, row = some c ∧ c.leaseToken = some token ∧ grantedToken st op id = none := by
  cases h with
  | kept _ hnone => exact Or.inr ⟨c', rfl, htoken, hnone⟩
  | created minted => rw [minted.leaseToken_eq] at htoken; cases htoken
  | leased c req now grants hop hopen hmark hclaim hgrant =>
    cases htoken
    exact Or.inl hgrant
  | progressed c details now hnone => exact Or.inr ⟨c, rfl, htoken, hnone⟩
  | renewed c deadline now hnone =>
    exact Or.inr ⟨c, rfl, by rw [← (renewedUpdate_fields c _ deadline now).2.2.1]; exact htoken, hnone⟩
  | completed => cases htoken
  | fenced c _ w now result swept hnone hopen hupdate =>
    rw [(staleFenceUpdate_ok hupdate).2.2.2.2.2.1] at htoken
    cases htoken
  | expired => cases htoken
  | cancelled => cases htoken
  | marked c reason now hnone => exact Or.inr ⟨c, rfl, htoken, hnone⟩

/-! ### The invariant of the world -/

/-- Every claimed copy is in order, and the copy a leased row belongs to knows every success the row carries. -/
structure WorldOk (w : BatchWorld) : Prop where
  sessions : ∀ id token s, w.sessions id token = some s → SessionOk s
  link : ∀ id token row, w.store.commands.get? id = some row → row.leaseToken = some token →
    ∃ s, w.sessions id token = some s ∧ s.claimed.batchedSteps = row.batchedSteps ∧
      ∀ key, CarriesSuccess row.resultDetails key → s.Knows key

private theorem openedSessions_of_none {w : BatchWorld} {op : CommandOp} {id : String}
    (h : grantedToken w.store op id = none) (token : String) :
    openedSessions w op id token = w.sessions id token := by
  cases op with
  | claim req now grants =>
    simp only [grantedToken] at h
    simp only [openedSessions]
    split
    · rename_i claimed hfind
      rw [hfind, Option.bind_some] at h
      rw [if_neg (by simp [h])]
    · rfl
  | _ => rfl

private theorem openedSessions_of_some {w : BatchWorld} {op : CommandOp} {id token : String}
    (h : grantedToken w.store op id = some token) :
    ∃ claimed, (commandStep w.store op).commands.get? id = some claimed ∧
      openedSessions w op id token = some (.start claimed) := by
  cases op with
  | claim req now grants =>
    simp only [grantedToken] at h
    cases hfind : (w.store.claimedCommands req now grants).find? fun command => command.commandId == id with
    | none => rw [hfind] at h; cases h
    | some claimed =>
      rw [hfind, Option.bind_some] at h
      obtain ⟨c, -, -, -, -, -, hput⟩ := claimedCommands_find hfind
      exact ⟨claimed, hput, by simp [openedSessions, hfind, h]⟩
  | _ => cases h

private theorem openedSessions_cases {w : BatchWorld} {op : CommandOp} {id token : String} {s : Session}
    (h : openedSessions w op id token = some s) :
    w.sessions id token = some s ∨ ∃ claimed, s = .start claimed := by
  cases op with
  | claim req now grants =>
    simp only [openedSessions] at h
    split at h
    · split at h
      · exact Or.inr ⟨_, (Option.some.inj h).symm⟩
      · exact Or.inl h
    · exact Or.inl h
  | _ => exact Or.inl h

private theorem worldOk_store {w : BatchWorld} (h : WorldOk w) {op : CommandOp} (hop : op.fromSession = false) :
    WorldOk ⟨commandStep w.store op, openedSessions w op⟩ where
  sessions := by
    intro id token s hs
    rcases openedSessions_cases hs with hold | ⟨claimed, rfl⟩
    · exact h.sessions id token s hold
    · exact .start claimed
  link := by
    intro id token row hrow htoken
    have hstep := rowStep w.store op id
    rw [hrow] at hstep
    rcases hstep.lease htoken with hgrant | ⟨c, hc, hctoken, hnone⟩
    · obtain ⟨claimed, hclaimed, hopened⟩ := openedSessions_of_some hgrant
      rw [hclaimed] at hrow
      cases hrow
      exact ⟨_, hopened, rfl, fun key hkey => Or.inl hkey⟩
    · obtain ⟨s, hs, hsteps, hknows⟩ := h.link id token c hc hctoken
      rw [hc] at hstep
      obtain ⟨hbatched, hentries⟩ := hstep.entries
      refine ⟨s, (openedSessions_of_none hnone token).trans hs, hsteps.trans hbatched.symm, fun key hkey => ?_⟩
      rcases hentries with hkept | ⟨_, _, _, _, _, rfl, _⟩ | ⟨_, _, _, rfl, _⟩
      · rw [CarriesSuccess, hkept] at hkey
        exact hknows key hkey
      · cases hop
      · cases hop

private theorem worldOk_session {w : BatchWorld} (h : WorldOk w) {id token : String} {s : Session}
    (hs : w.sessions id token = some s) (event : SessionEvent) : WorldOk (setSession w id token (s.next event)) where
  sessions := by
    intro id' token' s' hs'
    simp only [setSession] at hs'
    split at hs'
    · cases hs'
      exact (h.sessions id token s hs).next event
    · exact h.sessions id' token' s' hs'
  link := by
    intro id' token' row hrow htoken
    obtain ⟨s', hs', hsteps, hknows⟩ := h.link id' token' row hrow htoken
    by_cases hsame : id' = id ∧ token' = token
    · obtain ⟨rfl, rfl⟩ := hsame
      rw [hs] at hs'
      cases hs'
      refine ⟨s.next event, by simp [setSession], ?_, fun key hkey => (hknows key hkey).next event⟩
      rw [s.next_claimed]
      exact hsteps
    · exact ⟨s', by simpa [setSession, hsame] using hs', hsteps, hknows⟩

private theorem carriesSuccess_merged {d : Details} {kv : String × Json} {key : String}
    (h : CarriesSuccess (mergedBatchedResults d [kv]) key) :
    CarriesSuccess d key ∨ key = kv.1 ∧ succeededEntry (some kv.2) = true := by
  rw [CarriesSuccess, entriesOf_mergedBatchedResults] at h
  by_cases hkey : key = kv.1
  · subst hkey
    rw [Details.get?_set_self] at h
    exact Or.inr ⟨rfl, h⟩
  · rw [Details.get?_set_ne _ _ hkey] at h
    exact Or.inl h

private theorem worldOk_progress {w : BatchWorld} (h : WorldOk w) {id token : String} {s : Session}
    (hs : w.sessions id token = some s) {entry : String × Json} (hentry : entry ∈ s.outbox)
    (clusterId executorId : String) (now : Time) :
    WorldOk { w with store := commandStep w.store (.recordProgress clusterId id executorId token [entry] now) } where
  sessions := h.sessions
  link := by
    intro id' token' row hrow htoken
    have hstep := rowStep w.store (.recordProgress clusterId id executorId token [entry] now) id'
    rw [hrow] at hstep
    rcases hstep.lease htoken with hgrant | ⟨c, hc, hctoken, -⟩
    · cases hgrant
    · obtain ⟨s', hs', hsteps, hknows⟩ := h.link id' token' c hc hctoken
      rw [hc] at hstep
      obtain ⟨hbatched, hentries⟩ := hstep.entries
      refine ⟨s', hs', hsteps.trans hbatched.symm, fun key hkey => ?_⟩
      rcases hentries with hkept | ⟨_, _, posted, results, _, hop, hposted, hmerged⟩ | ⟨_, _, _, hop, _⟩
      · rw [CarriesSuccess, hkept] at hkey
        exact hknows key hkey
      · cases hop
        rw [hctoken] at hposted
        cases hposted
        rw [hs] at hs'
        cases hs'
        rw [hmerged] at hkey
        rcases carriesSuccess_merged hkey with hold | ⟨rfl, hnew⟩
        · exact hknows key hold
        · exact Or.inr ⟨entry.2, hentry, hnew⟩
      · cases hop

private theorem worldOk_report {w : BatchWorld} (h : WorldOk w) (clusterId id : String) (result : RemoteCommandResult)
    (now : Time) : WorldOk { w with store := commandStep w.store (.complete clusterId id result now) } where
  sessions := h.sessions
  link := by
    intro id' token' row hrow htoken
    have hstep := rowStep w.store (.complete clusterId id result now) id'
    rw [hrow] at hstep
    rcases hstep.lease htoken with hgrant | ⟨c, hc, hctoken, -⟩
    · cases hgrant
    · obtain ⟨s', hs', hsteps, hknows⟩ := h.link id' token' c hc hctoken
      rw [hc] at hstep
      obtain ⟨hbatched, hentries⟩ := hstep.entries
      refine ⟨s', hs', hsteps.trans hbatched.symm, fun key hkey => ?_⟩
      rcases hentries with hkept | ⟨_, _, _, _, _, hop, _⟩ | ⟨_, _, _, _, _, hended, _⟩
      · rw [CarriesSuccess, hkept] at hkey
        exact hknows key hkey
      · cases hop
      · rw [hended] at htoken
        cases htoken

private theorem worldOk_step {w : BatchWorld} (h : WorldOk w) (op : BatchOp) : WorldOk (batchStep w op) := by
  cases op with
  | store op hop => exact worldOk_store h hop
  | session id token event =>
    simp only [batchStep]
    split
    · rename_i s hs
      exact worldOk_session h hs event
    · exact h
  | postProgress id token n executorId now =>
    simp only [batchStep]
    split
    · rename_i s hs
      split
      · rename_i entry hentry
        exact worldOk_progress h hs (List.mem_of_getElem? hentry) _ _ _
      · exact h
    · exact h
  | report id token now =>
    simp only [batchStep]
    split
    · split
      · exact worldOk_report h _ _ _ _
      · exact h
    · exact h

private theorem worldOk_empty : WorldOk .empty where
  sessions := by
    intro id token s hs
    cases hs
  link := by
    intro id token row hrow
    cases hrow

/-! ### Successes that stay -/

private theorem carriesSuccess_progress {w : BatchWorld} (h : WorldOk w) {id token key : String} {s : Session}
    {c : RemoteActionCommand} (hs : w.sessions id token = some s) (hc : w.store.commands.get? id = some c)
    (htoken : c.leaseToken = some token) {entry : String × Json} (hentry : entry ∈ s.outbox)
    (hkey : CarriesSuccess c.resultDetails key) :
    CarriesSuccess (mergedBatchedResults c.resultDetails [entry]) key := by
  rw [CarriesSuccess, entriesOf_mergedBatchedResults]
  by_cases hsame : key = entry.1
  · obtain ⟨s', hs', -, hknows⟩ := h.link id token c hc htoken
    rw [hs] at hs'
    cases hs'
    have hsok := h.sessions id token s hs
    have hresult := hsok.known (hknows key hkey)
    rw [hsame, hsok.posted entry hentry] at hresult
    rw [hsame, Details.get?_set_self]
    exact hresult
  · rw [Details.get?_set_ne _ _ hsame]
    exact hkey

/-- A step of the world keeps every success the row of a compound command carries, unless a report without entries
takes it away. -/
private theorem carriesSuccess_step {w : BatchWorld} (h : WorldOk w) {op : BatchOp} (hop : NothingToLose w op)
    {id key : String} {c c' : RemoteActionCommand} (hc : w.store.commands.get? id = some c)
    (hc' : (batchStep w op).store.commands.get? id = some c') (hcompound : c.batchedSteps ≠ [])
    (hkey : CarriesSuccess c.resultDetails key) : c'.batchedSteps ≠ [] ∧ CarriesSuccess c'.resultDetails key := by
  -- an operation of the store on this row, told what a progress post and a report bring
  have hrow : ∀ o : CommandOp, (commandStep w.store o).commands.get? id = some c' →
      (∀ clusterId executorId token results now, o = .recordProgress clusterId id executorId token results now →
        c.leaseToken = some token → CarriesSuccess (mergedBatchedResults c.resultDetails results) key) →
      (∀ clusterId result now, o = .complete clusterId id result now → c.leaseToken = some result.leaseToken →
        CarriesSuccess result.details key) →
      c'.batchedSteps ≠ [] ∧ CarriesSuccess c'.resultDetails key := by
    intro o ho hprogress hreport
    have hstep := rowStep w.store o id
    rw [hc, ho] at hstep
    obtain ⟨hbatched, hentries⟩ := hstep.entries
    rw [hbatched]
    refine ⟨hcompound, ?_⟩
    rcases hentries with hkept | ⟨_, _, _, _, _, rfl, htoken, hmerged⟩ | ⟨_, _, _, rfl, htoken, -, hreported⟩
    · rw [CarriesSuccess, hkept]
      exact hkey
    · rw [hmerged]
      exact hprogress _ _ _ _ _ rfl htoken
    · rw [CarriesSuccess, hreported]
      exact hreport _ _ _ rfl htoken
  have hsame : w.store.commands.get? id = some c' → c'.batchedSteps ≠ [] ∧ CarriesSuccess c'.resultDetails key := by
    intro hkept
    rw [hc] at hkept
    cases hkept
    exact ⟨hcompound, hkey⟩
  cases op with
  | store o ho =>
    refine hrow o hc' ?_ ?_
    · rintro _ _ _ _ _ rfl
      cases ho
    · rintro _ _ _ rfl
      cases ho
  | session id' token event =>
    simp only [batchStep] at hc'
    split at hc' <;> exact hsame hc'
  | postProgress id' token n executorId now =>
    simp only [batchStep] at hc'
    split at hc'
    · rename_i s hs
      split at hc'
      · rename_i entry hentry
        refine hrow _ hc' ?_ ?_
        · intro _ _ _ _ _ ho htoken
          cases ho
          exact carriesSuccess_progress h hs hc htoken (List.mem_of_getElem? hentry) hkey
        · intro _ _ _ ho
          cases ho
      · exact hsame hc'
    · exact hsame hc'
  | report id' token now =>
    simp only [batchStep] at hc'
    split at hc'
    · rename_i s hs
      split at hc'
      · rename_i reporter result hverdict
        refine hrow _ hc' ?_ ?_
        · intro _ _ _ _ _ ho
          cases ho
        · intro _ _ _ ho htoken
          cases ho
          obtain ⟨s', hs', hsteps, hknows⟩ := h.link id token c hc htoken
          rw [hs] at hs'
          cases hs'
          by_cases hcarries : reporter.carriesEntries = true
          · rw [← hsteps] at hcompound
            exact ((h.sessions id token s hs).verdict reporter result hverdict hcarries hcompound).2 key
              (hknows key hkey)
          · have hreporter := Reporter.eq_of_not_carriesEntries hcarries
            exact absurd hkey (hop s reporter result c hs hverdict hreporter hc htoken key)
      · exact hsame hc'
    · exact hsame hc'

private theorem coveredStepOutcome_of_carries {c : RemoteActionCommand} {index : Nat}
    (h : CarriesSuccess c.resultDetails (toString index)) :
    ∃ outcome, coveredStepOutcome c index = some outcome ∧ outcome.status = .succeeded := by
  obtain ⟨fields, hentry, hstatus⟩ := succeededEntry_some h
  have hfound : batchedResultEntry c index = some fields := by rw [batchedResultEntry, hentry]
  simp only [coveredStepOutcome, hfound]
  rw [if_pos (show Details.get? fields "status" = _ from hstatus)]
  exact ⟨_, rfl, rfl⟩

/-- The row of `id` is there after every step of `later`: no retention sweep removed it. -/
def RowKept (w : BatchWorld) (later : List BatchOp) (id : String) : Prop :=
  Run.Along batchStep (fun w op => ((batchStep w op).store.commands.get? id).isSome = true) w later

/-- In every run of executors against the store in which the reports that carry no entries meet rows that have none to
lose: once the row of a compound command carries the success of a step, the row carries it in every later state, and
the step is never read as failed. -/
theorem batched_success_never_lost (ops later : List BatchOp)
    (hops : Run.Along batchStep NothingToLose .empty (ops ++ later)) (id : String) (index : Nat)
    (c : RemoteActionCommand) (hc : (Run.exec batchStep .empty ops).store.commands.get? id = some c)
    (hcompound : c.batchedSteps ≠ []) (hsuccess : CarriesSuccess c.resultDetails (toString index))
    (hkept : RowKept (Run.exec batchStep .empty ops) later id) :
    ∃ c', (Run.exec batchStep .empty (ops ++ later)).store.commands.get? id = some c' ∧
      CarriesSuccess c'.resultDetails (toString index) ∧
      ∀ outcome, coveredStepOutcome c' index = some outcome → outcome.status ≠ .failed := by
  have hok : WorldOk (Run.exec batchStep .empty ops) :=
    Run.invariant_exec (I := WorldOk) (fun w op h _ => worldOk_step h op) worldOk_empty hops.split.1
  have hend : WorldOk (Run.exec batchStep (Run.exec batchStep .empty ops) later) ∧
      ∃ c', (Run.exec batchStep (Run.exec batchStep .empty ops) later).store.commands.get? id = some c' ∧
        c'.batchedSteps ≠ [] ∧ CarriesSuccess c'.resultDetails (toString index) := by
    refine Run.invariant_exec (I := fun w => WorldOk w ∧ ∃ c', w.store.commands.get? id = some c' ∧
      c'.batchedSteps ≠ [] ∧ CarriesSuccess c'.resultDetails (toString index)) ?_ ⟨hok, c, hc, hcompound, hsuccess⟩
      (hops.split.2.and hkept)
    rintro w op ⟨hw, d, hd, hdc, hds⟩ ⟨hlose, hrow⟩
    obtain ⟨d', hd'⟩ := Option.isSome_iff_exists.mp hrow
    exact ⟨worldOk_step hw op, d', hd', carriesSuccess_step hw hlose hd hd' hdc hds⟩
  obtain ⟨-, c', hc', -, hsuccess'⟩ := hend
  rw [← Run.exec_append] at hc'
  refine ⟨c', hc', hsuccess', fun outcome houtcome => ?_⟩
  obtain ⟨outcome', houtcome', hstatus⟩ := coveredStepOutcome_of_carries hsuccess'
  rw [houtcome] at houtcome'
  cases houtcome'
  simp [hstatus]

private def quiesceThenReset : RemoteActionCommand :=
  { commandId := "c", clusterId := "k", workflowRequestId := "w", stepIndex := 3, fencingToken := 1,
    step := { operation := .quiesceGpuServices, nodeIds := ["n"] },
    batchedSteps := [⟨4, { operation := .resetGpu, nodeIds := ["n"] }, "reset"⟩] }

/-- The command is claimed and its head succeeds; the row has taken the progress post. -/
private def headPosted : List BatchOp :=
  [.store (.ensure ⟨quiesceThenReset, rfl, rfl, rfl, rfl, rfl⟩) rfl,
    .store (.claim ⟨"k", "e", 1, 60, none, true, 4⟩ 0 fun _ => ⟨"t", 0⟩) rfl,
    .session "c" "t" .admitted, .session "c" "t" .batchStarted,
    .session "c" "t" (.judged (.verdict (.succeeded []))), .postProgress "c" "t" 0 "e" 1]

private def resetTimedOut : List BatchOp := [.session "c" "t" (.executionTimeout 1800000), .report "c" "t" 2]

private def resetFailed : List BatchOp :=
  [.session "c" "t" (.judged (.verdict (.failed none [] "busy"))), .report "c" "t" 2]

private def headPostedRow : RemoteActionCommand :=
  { quiesceThenReset with
    status := .leased
    leaseOwner := some "e"
    leaseToken := some "t"
    leaseExpiresAt := some 60000000
    resultDetails := [(batchedResultsKey, .obj [("3", (StepResult.succeeded []).entry)])]
    updatedAt := 1 }

private theorem nothingToLose_report {w : BatchWorld} {id token : String} {now : Time}
    (h : ((w.sessions id token).bind Session.verdict).all (fun v => v.1.carriesEntries) = true) :
    NothingToLose w (.report id token now) := by
  intro s reporter result row hs hverdict hreporter
  rw [hs, Option.bind_some, hverdict] at h
  rcases hreporter with rfl | rfl <;> cases h

theorem batched_success_never_lost_reset_failed :
    (Run.exec batchStep .empty headPosted).store.commands.get? "c" = some headPostedRow ∧
    ∃ c', (Run.exec batchStep .empty (headPosted ++ resetFailed)).store.commands.get? "c" = some c' ∧
      CarriesSuccess c'.resultDetails (toString 3) ∧
      ∀ outcome, coveredStepOutcome c' 3 = some outcome → outcome.status ≠ .failed := by
  have hrow : (Run.exec batchStep .empty headPosted).store.commands.get? "c" = some headPostedRow := by decide
  refine ⟨hrow, batched_success_never_lost headPosted resetFailed ?_ "c" 3 headPostedRow hrow (by decide) (by decide)
    ⟨by decide, by decide, trivial⟩⟩
  exact ⟨trivial, trivial, trivial, trivial, trivial, trivial, trivial, nothingToLose_report (by decide), trivial⟩

/-- When the reset outlasts the execution cap, the report of the cap puts the success of the head off the row, and the
head is read as failed. -/
theorem head_success_lost_on_execution_timeout :
    ¬ ∀ (ops later : List BatchOp) (id : String) (index : Nat) (c : RemoteActionCommand),
      (Run.exec batchStep .empty ops).store.commands.get? id = some c → c.batchedSteps ≠ [] →
      CarriesSuccess c.resultDetails (toString index) → RowKept (Run.exec batchStep .empty ops) later id →
      ∃ c', (Run.exec batchStep .empty (ops ++ later)).store.commands.get? id = some c' ∧
        CarriesSuccess c'.resultDetails (toString index) ∧
        ∀ outcome, coveredStepOutcome c' index = some outcome → outcome.status ≠ .failed := by
  intro h
  obtain ⟨c', hc', hsuccess, -⟩ := h headPosted resetTimedOut "c" 3 headPostedRow (by decide) (by decide) (by decide)
    ⟨by decide, by decide, trivial⟩
  have hlost : ((Run.exec batchStep .empty (headPosted ++ resetTimedOut)).store.commands.get? "c").all
      (fun row => !decide (CarriesSuccess row.resultDetails (toString 3)) &&
        ((coveredStepOutcome row 3).map StepOutcome.status == some .failed)) = true := by decide
  rw [hc'] at hlost
  simp only [Option.all_some, Bool.and_eq_true, Bool.not_eq_true', decide_eq_false_iff_not] at hlost
  exact hlost.1 hsuccess

end GpuFaultRecovery
