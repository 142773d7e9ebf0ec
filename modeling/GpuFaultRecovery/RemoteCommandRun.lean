import Mathlib.Data.List.Induction
import GpuFaultRecovery.RemoteCommand
import GpuFaultRecovery.Run

/-!
# Runs of the remote command store

`commandStep` is one operation on the store, a failed one leaving it unchanged. `RowStep` lists what an operation can
do to the row of one command, with its guards; `rowStep` proves the list complete. Everything about whole runs is
derived from it: the lease fields, the statuses that are never left, the link between a success and the last claim.
-/

namespace GpuFaultRecovery

open CommandStore

/-- One operation on the store; `putWorkflow` is any write of a workflow row. -/
inductive CommandOp where
  | ensure (minted : MintedCommand)
  | claim (req : ClaimRequest) (now : Time) (grants : String → LeaseGrant)
  | renew (clusterId commandId executorId leaseToken : String) (leaseSeconds : Nat) (now clock : Time)
  | recordProgress (clusterId commandId executorId leaseToken : String) (batchedResults : Details) (now : Time)
  | complete (clusterId commandId : String) (result : RemoteCommandResult) (now : Time)
  | cancel (commandId reason : String) (now : Time)
  | cancelForWorkflow (workflowRequestId reason : String) (now : Time)
  | expireUnclaimed (olderThan : Time) (limit : Nat) (now : Time)
  | expireStaleFenced (leaseExpiredBefore : Time) (limit : Nat) (now : Time)
  | cancelOrphaned (workflow : WorkflowRequest) (actor : String) (now clock : Time)
  | cleanup (olderThan : Time) (limit : Nat)
  | putWorkflow (workflow : WorkflowRequest)

/-- The store after an operation that may have failed. -/
def committed {α : Type} (st : CommandStore) : Except StoreError (CommandStore × α) → CommandStore
  | .ok (st', _) => st'
  | .error _ => st

def commandStep (st : CommandStore) : CommandOp → CommandStore
  | .ensure minted => committed st (st.ensureRemoteCommand minted.command)
  | .claim req now grants => (st.claimRemoteCommands req now grants).1
  | .renew clusterId commandId executorId leaseToken leaseSeconds now clock =>
    committed st (st.renewRemoteCommandLease clusterId commandId executorId leaseToken leaseSeconds now clock)
  | .recordProgress clusterId commandId executorId leaseToken batchedResults now =>
    committed st (st.recordRemoteCommandProgress clusterId commandId executorId leaseToken batchedResults now)
  | .complete clusterId commandId result now =>
    committed st (st.completeRemoteCommand clusterId commandId result now)
  | .cancel commandId reason now => (st.cancelRemoteCommand commandId reason now).1
  | .cancelForWorkflow workflowRequestId reason now =>
    st.cancelRemoteCommandsForWorkflow workflowRequestId reason now
  | .expireUnclaimed olderThan limit now => (st.expireUnclaimedRemoteCommands olderThan limit now).1
  | .expireStaleFenced leaseExpiredBefore limit now =>
    (st.expireStaleFencedRemoteCommands leaseExpiredBefore limit now).1
  | .cancelOrphaned workflow actor now clock => (st.cancelOrphanedRemoteCommands workflow actor now clock).1
  | .cleanup olderThan limit => (st.cleanupTerminalRemoteCommands olderThan limit).1
  | .putWorkflow workflow => { st with workflows := st.workflows.put workflow }

/-- The token an operation hands out for the command `id`, if it leases it. -/
def grantedToken (st : CommandStore) (op : CommandOp) (id : String) : Option String :=
  match op with
  | .claim req now grants =>
    ((st.claimedCommands req now grants).find? fun command => command.commandId == id).bind (·.leaseToken)
  | _ => none

/-! ### What one operation does to one row -/

/-- What an operation can do to the row of the command `id`. -/
inductive RowStep (st : CommandStore) (op : CommandOp) (id : String) :
    Option RemoteActionCommand → Option RemoteActionCommand → Prop
  | kept (row : Option RemoteActionCommand) (hnone : grantedToken st op id = none) : RowStep st op id row row
  | created (minted : MintedCommand) (hop : op = .ensure minted) : RowStep st op id none (some minted.command)
  | leased (c : RemoteActionCommand) (req : ClaimRequest) (now : Time) (grants : String → LeaseGrant)
      (hop : op = .claim req now grants) (hopen : c.status.terminal = false)
      (hmark : c.cancellationRequestedAt = none) (hclaim : st.claimable req now c = true)
      (htoken : grantedToken st op id = some (grants id).token) :
      RowStep st op id (some c) (some (leasedUpdate req now (grants id) c))
  | progressed (c : RemoteActionCommand) (details : Details) (now : Time) (hnone : grantedToken st op id = none)
      (hleased : c.status = .leased)
      (hop : ∃ clusterId executorId token results, op = .recordProgress clusterId id executorId token results now ∧
        c.leaseToken = some token ∧ details = mergedBatchedResults c.resultDetails results) :
      RowStep st op id (some c) (some { c with resultDetails := details, updatedAt := now })
  | renewed (c : RemoteActionCommand) (deadline now : Time) (hnone : grantedToken st op id = none)
      (hleased : c.status = .leased) :
      RowStep st op id (some c) (some (renewedUpdate c (st.owner c) deadline now))
  | completed (c : RemoteActionCommand) (clusterId : String) (result : RemoteCommandResult) (now : Time)
      (hop : op = .complete clusterId id result now) (hfence : staleFence c (st.owner c) = false)
      (hlease : completable c result now = true) :
      RowStep st op id (some c) (some (completedUpdate c result now))
  | fenced (c c' : RemoteActionCommand) (w : WorkflowRequest) (now : Time) (result : Option RemoteCommandResult)
      (swept : Bool) (hnone : grantedToken st op id = none) (hopen : c.status.terminal = false)
      (hupdate : staleFenceUpdate c w now result swept = .ok c')
      (hop : ∀ r, result = some r → ∃ clusterId, op = .complete clusterId id r now) :
      RowStep st op id (some c) (some c')
  | expired (c : RemoteActionCommand) (now : Time) (hnone : grantedToken st op id = none)
      (hpending : c.status = .pending) : RowStep st op id (some c) (some (unclaimedExpiryUpdate c now))
  | cancelled (c : RemoteActionCommand) (reason source : String) (now : Time)
      (hnone : grantedToken st op id = none) (hopen : c.status.terminal = false) :
      RowStep st op id (some c) (some (cancelledUpdate c reason source now))
  | marked (c : RemoteActionCommand) (reason : String) (now : Time) (hnone : grantedToken st op id = none)
      (hleased : c.status = .leased) (hmark : c.cancellationRequestedAt = none) :
      RowStep st op id (some c) (some (cancellationRequestedUpdate c reason now))
  | removed (c : RemoteActionCommand) (olderThan : Time) (limit : Nat) (hop : op = .cleanup olderThan limit)
      (hdone : c.status.terminal = true) : RowStep st op id (some c) none

private theorem clusterCommand_ok {st : CommandStore} {clusterId id : String} {c : RemoteActionCommand}
    (h : st.clusterCommand clusterId id = .ok c) : st.commands.get? id = some c := by
  unfold clusterCommand at h
  split at h
  · cases h
  · rename_i d hd
    split at h
    · cases h
    · cases h
      exact hd

private theorem rowStep_putAll {st : CommandStore} {op : CommandOp} {id : String} {l : List RemoteActionCommand}
    (hnone : grantedToken st op id = none)
    (hl : ∀ c' ∈ l, ∃ c ∈ st.commands.rows, c'.commandId = c.commandId ∧ RowStep st op id (some c) (some c')) :
    RowStep st op id (st.commands.get? id) ((st.commands.putAll l).get? id) := by
  by_cases h : ∃ a ∈ l, a.commandId = id
  · obtain ⟨c', hc', hid, hput⟩ := Table.get?_putAll_of_mem (t := st.commands) h
    obtain ⟨c, hc, hcid, hstep⟩ := hl c' hc'
    have hget := Table.mem_rows.mp hc
    rw [← hcid, hid] at hget
    rw [hput, hget]
    exact hstep
  · rw [Table.get?_putAll_of_forall_ne fun a ha e => h ⟨a, ha, e⟩]
    exact .kept _ hnone

private theorem claimLoop_mem {claim : RemoteActionCommand → Bool} {lease : RemoteActionCommand → RemoteActionCommand}
    {limit : Nat} {l claimed : List RemoteActionCommand} {a : RemoteActionCommand}
    (h : a ∈ claimLoop claim lease limit l claimed) :
    a ∈ claimed ∨ ∃ c ∈ l, claim c = true ∧ a = lease c := by
  induction l generalizing claimed with
  | nil => exact Or.inl h
  | cons c l ih =>
    -- one more leased command at the end of `claimed`
    have hsnoc : claim c = true → a ∈ claimed ++ [lease c] →
        a ∈ claimed ∨ ∃ d ∈ c :: l, claim d = true ∧ a = lease d := by
      intro hc ha
      rcases List.mem_append.mp ha with ha | ha
      · exact Or.inl ha
      · exact Or.inr ⟨c, by simp, hc, by simpa using ha⟩
    unfold claimLoop at h
    by_cases hc : claim c = true
    · simp only [hc, Bool.not_true, Bool.false_eq_true, if_false] at h
      split at h
      · exact hsnoc hc h
      · rcases ih h with h | ⟨d, hd, hcd, rfl⟩
        · exact hsnoc hc h
        · exact Or.inr ⟨d, List.mem_cons_of_mem _ hd, hcd, rfl⟩
    · simp only [hc, Bool.not_false, if_true] at h
      rcases ih h with h | ⟨d, hd, hcd, rfl⟩
      · exact Or.inl h
      · exact Or.inr ⟨d, List.mem_cons_of_mem _ hd, hcd, rfl⟩

private theorem mem_claimedCommands {st : CommandStore} {req : ClaimRequest} {now : Time}
    {grants : String → LeaseGrant} {a : RemoteActionCommand} (h : a ∈ st.claimedCommands req now grants) :
    ∃ c ∈ st.commands.rows, a = leasedUpdate req now (grants c.commandId) c ∧ c.status.terminal = false ∧
      c.cancellationRequestedAt = none ∧ st.claimable req now c = true := by
  rcases claimLoop_mem h with h | ⟨c, hc, hclaim, rfl⟩
  · cases h
  · rw [List.mem_insertionSort] at hc
    obtain ⟨hrow, hguard⟩ := List.mem_filter.mp hc
    simp only [Bool.and_eq_true, Bool.not_eq_true', Option.isNone_iff_eq_none] at hguard
    exact ⟨c, hrow, rfl, hguard.1.2, hguard.2, hclaim⟩

/-- The copy a claim hands out for `id` is the row it writes: the stored one, leased. -/
theorem claimedCommands_find {st : CommandStore} {req : ClaimRequest} {now : Time} {grants : String → LeaseGrant}
    {id : String} {a : RemoteActionCommand}
    (hfind : ((st.claimedCommands req now grants).find? fun command => command.commandId == id) = some a) :
    ∃ c, st.commands.get? id = some c ∧ a = leasedUpdate req now (grants id) c ∧ c.status.terminal = false ∧
      c.cancellationRequestedAt = none ∧ st.claimable req now c = true ∧
      (st.commands.putAll (st.claimedCommands req now grants)).get? id = some a := by
  have ha : a ∈ st.claimedCommands req now grants := List.mem_of_find?_eq_some hfind
  have haid : a.commandId = id := by simpa using List.find?_some hfind
  obtain ⟨b, hb, hbid, hget⟩ := Table.get?_putAll_of_mem (t := st.commands) ⟨a, ha, haid⟩
  -- both `a` and `b` lease the one row stored under `id`
  obtain ⟨c, hc, rfl, hopen, hmark, hclaim⟩ := mem_claimedCommands ha
  obtain ⟨d, hd, rfl, -, -, -⟩ := mem_claimedCommands hb
  have hcid : c.commandId = id := haid
  have hdid : d.commandId = id := hbid
  have hcget := Table.mem_rows.mp hc
  have hdget := Table.mem_rows.mp hd
  rw [hcid] at hcget
  rw [hdid, hcget] at hdget
  cases hdget
  exact ⟨c, hcget, by rw [hcid], hopen, hmark, hclaim, hget⟩

private theorem rowStep_claim (st : CommandStore) (req : ClaimRequest) (now : Time) (grants : String → LeaseGrant)
    (id : String) :
    RowStep st (.claim req now grants) id (st.commands.get? id)
      ((commandStep st (.claim req now grants)).commands.get? id) := by
  change RowStep _ _ _ _ ((st.commands.putAll (st.claimedCommands req now grants)).get? id)
  cases hfind : (st.claimedCommands req now grants).find? fun command => command.commandId == id with
  | none =>
    have hne : ∀ a ∈ st.claimedCommands req now grants, a.commandId ≠ id := by
      intro a ha
      simpa using List.find?_eq_none.mp hfind a ha
    rw [Table.get?_putAll_of_forall_ne hne]
    exact .kept _ (by simp [grantedToken, hfind])
  | some a =>
    obtain ⟨c, hcget, rfl, hopen, hmark, hclaim, hput⟩ := claimedCommands_find hfind
    rw [hput, hcget]
    refine .leased c req now grants rfl hopen hmark hclaim ?_
    simp [grantedToken, hfind, leasedUpdate]

private theorem rowStep_put {st : CommandStore} {op : CommandOp} {id : String} (c : RemoteActionCommand)
    {c' : RemoteActionCommand} (hnone : grantedToken st op id = none) (hid : c'.commandId = c.commandId)
    (hget : st.commands.get? c.commandId = some c) (h : c.commandId = id → RowStep st op id (some c) (some c')) :
    RowStep st op id (st.commands.get? id) ((st.commands.put c').get? id) := by
  rw [Table.get?_put, hid]
  by_cases he : id = c.commandId
  · subst he
    rw [if_pos rfl, hget]
    exact h rfl
  · rw [if_neg he]
    exact .kept _ hnone

/-- What a stale-fence write keeps of the row and what it sets. -/
theorem staleFenceUpdate_ok {c c' : RemoteActionCommand} {w : WorkflowRequest} {now : Time}
    {result : Option RemoteCommandResult} {swept : Bool} (h : staleFenceUpdate c w now result swept = .ok c') :
    c'.commandId = c.commandId ∧ c'.workflowRequestId = c.workflowRequestId ∧ c'.fencingToken = c.fencingToken ∧
      c'.status = .failed ∧ c'.leaseOwner = none ∧ c'.leaseToken = none ∧ c'.leaseExpiresAt = none := by
  unfold staleFenceUpdate at h
  split at h
  · cases h
  · cases h
    exact ⟨rfl, rfl, rfl, rfl, rfl, rfl, rfl⟩

private theorem workflowCancellation_cases {c c' : RemoteActionCommand} {reason : String} {now : Time}
    (h : workflowCancellation c reason now = some c') :
    (c.status.terminal = false ∧ c' = cancelledUpdate c reason "workflow-timeout" now) ∨
    (c.status = .leased ∧ c.cancellationRequestedAt = none ∧ c' = cancellationRequestedUpdate c reason now) := by
  unfold workflowCancellation at h
  cases hs : c.status with
  | pending => left; simpa [hs, eq_comm, RemoteCommandStatus.terminal] using h
  | waiting => left; simpa [hs, eq_comm, RemoteCommandStatus.terminal] using h
  | leased =>
    right
    simp only [hs, Option.isNone_iff_eq_none] at h
    split at h
    · exact ⟨rfl, ‹_›, (Option.some.inj h).symm⟩
    · cases h
  | succeeded => simp [hs] at h
  | failed => simp [hs] at h

private theorem rowStep_cancelAll {st : CommandStore} {op : CommandOp} {l : List RemoteActionCommand}
    {reason : String} {now : Time} (hl : ∀ c ∈ l, c ∈ st.commands.rows) (id : String)
    (hnone : grantedToken st op id = none) :
    RowStep st op id (st.commands.get? id)
      ((st.commands.putAll (l.filterMap (workflowCancellation · reason now))).get? id) := by
  refine rowStep_putAll hnone ?_
  intro c' hc'
  obtain ⟨c, hc, hcancel⟩ := List.mem_filterMap.mp hc'
  refine ⟨c, hl c hc, ?_⟩
  rcases workflowCancellation_cases hcancel with ⟨hopen, rfl⟩ | ⟨hleased, hmark, rfl⟩
  · exact ⟨rfl, .cancelled c _ _ _ hnone hopen⟩
  · exact ⟨rfl, .marked c _ _ hnone hleased hmark⟩

private theorem rowStep_ensure (st : CommandStore) (minted : MintedCommand) (id : String) :
    RowStep st (.ensure minted) id (st.commands.get? id) ((commandStep st (.ensure minted)).commands.get? id) := by
  simp only [commandStep, ensureRemoteCommand]
  split
  · split <;> exact .kept _ rfl
  · rename_i hnone
    change RowStep _ _ _ _ ((st.commands.put minted.command).get? id)
    rw [Table.get?_put]
    by_cases he : id = minted.command.commandId
    · rw [if_pos he, he, hnone]
      exact .created minted rfl
    · rw [if_neg he]
      exact .kept _ rfl

private theorem holdsLease_leased {c : RemoteActionCommand} {executorId leaseToken : String} {now : Time}
    (h : holdsLease c executorId leaseToken now = true) : c.status = .leased ∧ c.leaseToken = some leaseToken := by
  simp only [holdsLease, Bool.and_eq_true, beq_iff_eq] at h
  exact ⟨h.1.1.1.1, h.1.1.2⟩

private theorem rowStep_renew (st : CommandStore) (clusterId commandId executorId leaseToken : String)
    (leaseSeconds : Nat) (now clock : Time) (id : String) :
    RowStep st (.renew clusterId commandId executorId leaseToken leaseSeconds now clock) id (st.commands.get? id)
      ((commandStep st
        (.renew clusterId commandId executorId leaseToken leaseSeconds now clock)).commands.get? id) := by
  simp only [commandStep]
  cases hres : st.renewRemoteCommandLease clusterId commandId executorId leaseToken leaseSeconds now clock with
  | error e => exact .kept _ rfl
  | ok res =>
    obtain ⟨c, hc, hrest⟩ := bind_ok hres
    have hget := clusterCommand_ok hc
    have hid : c.commandId = commandId := Table.key_of_get? hget
    split at hrest
    · cases hrest
    · rename_i hlease
      cases hrest
      have hlease : holdsLease c executorId leaseToken now = true := by simpa using hlease
      refine rowStep_put c rfl ?_ (hid ▸ hget) fun _ => .renewed c _ _ rfl (holdsLease_leased hlease).1
      unfold renewedUpdate
      split
      · rfl
      · dsimp only
        split <;> rfl

private theorem rowStep_progress (st : CommandStore) (clusterId commandId executorId leaseToken : String)
    (batchedResults : Details) (now : Time) (id : String) :
    RowStep st (.recordProgress clusterId commandId executorId leaseToken batchedResults now) id (st.commands.get? id)
      ((commandStep st (.recordProgress clusterId commandId executorId leaseToken batchedResults now)).commands.get?
        id) := by
  simp only [commandStep]
  cases hres : st.recordRemoteCommandProgress clusterId commandId executorId leaseToken batchedResults now with
  | error e => exact .kept _ rfl
  | ok res =>
    obtain ⟨c, hc, hrest⟩ := bind_ok hres
    have hget := clusterCommand_ok hc
    have hid : c.commandId = commandId := Table.key_of_get? hget
    split at hrest
    · cases hrest
    · rename_i hlease
      cases hrest
      have hlease : holdsLease c executorId leaseToken now = true := by simpa using hlease
      obtain ⟨hleased, htoken⟩ := holdsLease_leased hlease
      refine rowStep_put c rfl rfl (hid ▸ hget) fun he => .progressed c _ _ rfl hleased ?_
      subst hid
      subst he
      exact ⟨clusterId, executorId, leaseToken, batchedResults, rfl, htoken, rfl⟩

private theorem settledUpdate_cases {c c' : RemoteActionCommand} {workflow : Option WorkflowRequest}
    {result : RemoteCommandResult} {now : Time} (h : settledUpdate c workflow result now = .ok c') :
    (∃ w, staleFenceUpdate c w now (some result) false = .ok c') ∨
    (staleFence c workflow = false ∧ completable c result now = true ∧ c' = completedUpdate c result now) := by
  unfold settledUpdate at h
  split at h
  · rename_i w
    split at h
    · exact Or.inl ⟨w, h⟩
    · rename_i hfence
      split at h
      · exact Or.inr ⟨by simpa using hfence, ‹_›, (Except.ok.inj h).symm⟩
      · cases h
  · split at h
    · exact Or.inr ⟨rfl, ‹_›, (Except.ok.inj h).symm⟩
    · cases h

private theorem rowStep_complete (st : CommandStore) (clusterId commandId : String) (result : RemoteCommandResult)
    (now : Time) (id : String) :
    RowStep st (.complete clusterId commandId result now) id (st.commands.get? id)
      ((commandStep st (.complete clusterId commandId result now)).commands.get? id) := by
  simp only [commandStep]
  cases hres : st.completeRemoteCommand clusterId commandId result now with
  | error e => exact .kept _ rfl
  | ok res =>
    obtain ⟨c, hc, hrest⟩ := bind_ok hres
    have hget := clusterCommand_ok hc
    have hid : c.commandId = commandId := Table.key_of_get? hget
    split at hrest
    · cases hrest
      exact .kept _ rfl
    · rename_i hopen
      have hopen : c.status.terminal = false := by simpa using hopen
      obtain ⟨c', hsettled, hrest⟩ := bind_ok hrest
      cases hrest
      rcases settledUpdate_cases hsettled with ⟨w, hfenced⟩ | ⟨hfence, hlease, rfl⟩
      · refine rowStep_put c rfl (staleFenceUpdate_ok hfenced).1 (hid ▸ hget) fun he =>
          .fenced c c' w now _ _ rfl hopen hfenced ?_
        subst hid
        subst he
        intro r hr
        cases hr
        exact ⟨clusterId, rfl⟩
      · exact rowStep_put c rfl rfl (hid ▸ hget) fun he => by
          subst hid
          subst he
          exact .completed c clusterId result now rfl hfence hlease

private theorem rowStep_cancel (st : CommandStore) (commandId reason : String) (now : Time) (id : String) :
    RowStep st (.cancel commandId reason now) id (st.commands.get? id)
      ((commandStep st (.cancel commandId reason now)).commands.get? id) := by
  simp only [commandStep, cancelRemoteCommand]
  split
  · exact .kept _ rfl
  · rename_i c hget
    have hid : c.commandId = commandId := Table.key_of_get? hget
    split
    · rename_i hstatus
      have hopen : c.status.terminal = false := by
        rcases Bool.or_eq_true _ _ ▸ hstatus with h | h <;> rw [beq_iff_eq.mp h] <;> rfl
      exact rowStep_put c rfl rfl (hid ▸ hget) fun _ => .cancelled c _ _ _ rfl hopen
    · exact .kept _ rfl

private theorem rowStep_expireUnclaimed (st : CommandStore) (olderThan : Time) (limit : Nat) (now : Time)
    (id : String) :
    RowStep st (.expireUnclaimed olderThan limit now) id (st.commands.get? id)
      ((commandStep st (.expireUnclaimed olderThan limit now)).commands.get? id) := by
  simp only [commandStep, expireUnclaimedRemoteCommands]
  refine rowStep_putAll rfl ?_
  intro c' hc'
  obtain ⟨c, hc, rfl⟩ := List.mem_map.mp hc'
  obtain ⟨hmem, hguard⟩ := List.mem_filter.mp (List.mem_of_mem_take hc)
  rw [sortedCommands, List.mem_insertionSort] at hmem
  simp only [Bool.and_eq_true, beq_iff_eq] at hguard
  exact ⟨c, hmem, rfl, .expired c now rfl hguard.1⟩

private theorem sweptUpdate_some {st : CommandStore} {leaseExpiredBefore now : Time} {c c' : RemoteActionCommand}
    (h : st.sweptUpdate leaseExpiredBefore now c = some c') :
    c.status = .leased ∧ ∃ w, staleFenceUpdate c w now none true = .ok c' := by
  unfold sweptUpdate at h
  split at h
  · cases h
  · rename_i w hw
    split at h
    · rename_i hguard
      simp only [Bool.and_eq_true, beq_iff_eq] at hguard
      refine ⟨hguard.1.1, w, ?_⟩
      cases hupdate : staleFenceUpdate c w now none true with
      | error e => rw [hupdate] at h; cases h
      | ok d => rw [hupdate] at h; cases h; rfl
    · cases h

private theorem rowStep_expireStaleFenced (st : CommandStore) (leaseExpiredBefore : Time) (limit : Nat) (now : Time)
    (id : String) :
    RowStep st (.expireStaleFenced leaseExpiredBefore limit now) id (st.commands.get? id)
      ((commandStep st (.expireStaleFenced leaseExpiredBefore limit now)).commands.get? id) := by
  simp only [commandStep, expireStaleFencedRemoteCommands]
  refine rowStep_putAll rfl ?_
  intro c' hc'
  obtain ⟨c, hc, hswept⟩ := List.mem_filterMap.mp (List.mem_of_mem_take hc')
  rw [sortedCommands, List.mem_insertionSort] at hc
  obtain ⟨hleased, w, hupdate⟩ := sweptUpdate_some hswept
  have hopen : c.status.terminal = false := by rw [hleased]; rfl
  exact ⟨c, hc, (staleFenceUpdate_ok hupdate).1, .fenced c c' w now none true rfl hopen hupdate (by simp)⟩

private theorem rowStep_cancelOrphaned (st : CommandStore) (workflow : WorkflowRequest) (actor : String)
    (now clock : Time) (id : String) :
    RowStep st (.cancelOrphaned workflow actor now clock) id (st.commands.get? id)
      ((commandStep st (.cancelOrphaned workflow actor now clock)).commands.get? id) := by
  simp only [commandStep, cancelOrphanedRemoteCommands]
  split
  · exact .kept _ rfl
  · split
    · exact .kept _ rfl
    · split
      · exact .kept _ rfl
      · refine rowStep_cancelAll ?_ id rfl
        intro c hc
        have hmem := (List.mem_filter.mp hc).1
        rwa [sortedCommands, List.mem_insertionSort] at hmem

private theorem rowStep_cleanup (st : CommandStore) (olderThan : Time) (limit : Nat) (id : String) :
    RowStep st (.cleanup olderThan limit) id (st.commands.get? id)
      ((commandStep st (.cleanup olderThan limit)).commands.get? id) := by
  simp only [commandStep, cleanupTerminalRemoteCommands]
  rw [Table.get?_removeAll]
  split
  · rename_i hmem
    obtain ⟨c, hc, hid⟩ := List.mem_map.mp (List.mem_of_mem_take hmem)
    obtain ⟨hrow, hguard⟩ := List.mem_filter.mp hc
    rw [List.mem_insertionSort] at hrow
    have hget := Table.mem_rows.mp hrow
    rw [hid] at hget
    rw [hget]
    simp only [Bool.and_eq_true] at hguard
    exact .removed c olderThan limit rfl hguard.1
  · exact .kept _ rfl

/-- Every operation does to every row one of the things `RowStep` lists. -/
theorem rowStep (st : CommandStore) (op : CommandOp) (id : String) :
    RowStep st op id (st.commands.get? id) ((commandStep st op).commands.get? id) := by
  cases op with
  | ensure minted => exact rowStep_ensure st minted id
  | claim req now grants => exact rowStep_claim st req now grants id
  | renew clusterId commandId executorId leaseToken leaseSeconds now clock =>
    exact rowStep_renew st clusterId commandId executorId leaseToken leaseSeconds now clock id
  | recordProgress clusterId commandId executorId leaseToken batchedResults now =>
    exact rowStep_progress st clusterId commandId executorId leaseToken batchedResults now id
  | complete clusterId commandId result now => exact rowStep_complete st clusterId commandId result now id
  | cancel commandId reason now => exact rowStep_cancel st commandId reason now id
  | cancelForWorkflow workflowRequestId reason now =>
    exact rowStep_cancelAll (fun c hc => (List.mem_filter.mp hc).1) id rfl
  | expireUnclaimed olderThan limit now => exact rowStep_expireUnclaimed st olderThan limit now id
  | expireStaleFenced leaseExpiredBefore limit now =>
    exact rowStep_expireStaleFenced st leaseExpiredBefore limit now id
  | cancelOrphaned workflow actor now clock => exact rowStep_cancelOrphaned st workflow actor now clock id
  | cleanup olderThan limit => exact rowStep_cleanup st olderThan limit id
  | putWorkflow workflow => exact .kept _ rfl

/-! ### Invariants of a row -/

/-- The lease fields are set exactly while the row is leased; a cancellation mark sits on a leased or failed row. -/
structure RowOk (c : RemoteActionCommand) : Prop where
  leaseOwner : c.leaseOwner.isSome = true ↔ c.status = .leased
  leaseToken : c.leaseToken.isSome = true ↔ c.status = .leased
  leaseExpiresAt : c.leaseExpiresAt.isSome = true ↔ c.status = .leased
  mark : c.cancellationRequestedAt.isSome = true → c.status = .leased ∨ c.status = .failed

private theorem rowOk_of_unleased {c : RemoteActionCommand} (hs : c.status ≠ .leased) (h1 : c.leaseOwner = none)
    (h2 : c.leaseToken = none) (h3 : c.leaseExpiresAt = none)
    (hmark : c.cancellationRequestedAt.isSome = true → c.status = .failed) : RowOk c where
  leaseOwner := by simp [h1, hs]
  leaseToken := by simp [h2, hs]
  leaseExpiresAt := by simp [h3, hs]
  mark h := Or.inr (hmark h)

/-- What a renewal keeps of the row and what it sets. -/
theorem renewedUpdate_fields (c : RemoteActionCommand) (workflow : Option WorkflowRequest)
    (deadline now : Time) :
    (renewedUpdate c workflow deadline now).status = c.status ∧
      (renewedUpdate c workflow deadline now).leaseOwner = c.leaseOwner ∧
      (renewedUpdate c workflow deadline now).leaseToken = c.leaseToken ∧
      (renewedUpdate c workflow deadline now).leaseExpiresAt = some deadline ∧
      (renewedUpdate c workflow deadline now).workflowRequestId = c.workflowRequestId ∧
      (renewedUpdate c workflow deadline now).fencingToken = c.fencingToken ∧
      (c.cancellationRequestedAt.isSome = true →
        (renewedUpdate c workflow deadline now).cancellationRequestedAt.isSome = true) := by
  unfold renewedUpdate
  split
  · exact ⟨rfl, rfl, rfl, rfl, rfl, rfl, id⟩
  · dsimp only
    split
    · exact ⟨rfl, rfl, rfl, rfl, rfl, rfl, fun _ => rfl⟩
    · exact ⟨rfl, rfl, rfl, rfl, rfl, rfl, id⟩

private theorem completedUpdate_status (c : RemoteActionCommand) (result : RemoteCommandResult) (now : Time) :
    (completedUpdate c result now).status ≠ .leased ∧ (completedUpdate c result now).status ≠ .pending ∧
      (c.cancellationRequestedAt.isSome = true → (completedUpdate c result now).status = .failed) := by
  simp only [completedUpdate]
  rcases result.reportable with h | h | h <;> by_cases hm : c.cancellationRequestedAt.isSome = true <;>
    simp [h, hm]

/-- A step keeps every row well formed. -/
private theorem RowStep.rowOk {st : CommandStore} {op : CommandOp} {id : String}
    {row row' : Option RemoteActionCommand} (h : RowStep st op id row row') (hrow : ∀ c, row = some c → RowOk c) :
    ∀ c', row' = some c' → RowOk c' := by
  cases h with
  | kept => exact hrow
  | created minted =>
    rintro _ ⟨⟩
    exact rowOk_of_unleased (by simp [minted.status_eq]) minted.leaseOwner_eq minted.leaseToken_eq
      minted.leaseExpiresAt_eq (by simp [minted.cancellationRequestedAt_eq])
  | leased c req now grants =>
    rintro _ ⟨⟩
    exact ⟨by simp [leasedUpdate], by simp [leasedUpdate], by simp [leasedUpdate], fun _ => Or.inl rfl⟩
  | progressed c details now =>
    rintro _ ⟨⟩
    have hc := hrow c rfl
    exact ⟨hc.leaseOwner, hc.leaseToken, hc.leaseExpiresAt, hc.mark⟩
  | renewed c deadline now hnone hleased =>
    rintro _ ⟨⟩
    have hc := hrow c rfl
    obtain ⟨hs, ho, ht, he, -, -, -⟩ := renewedUpdate_fields c (st.owner c) deadline now
    refine ⟨?_, ?_, ?_, fun _ => Or.inl (hs.trans hleased)⟩
    · rw [ho, hs]
      exact hc.leaseOwner
    · rw [ht, hs]
      exact hc.leaseToken
    · rw [he, hs]
      simp [hleased]
  | completed c clusterId result now =>
    rintro _ ⟨⟩
    obtain ⟨hleased, -, hmark⟩ := completedUpdate_status c result now
    exact rowOk_of_unleased hleased rfl rfl rfl hmark
  | fenced c c' w now result swept hnone hopen hupdate =>
    rintro _ ⟨⟩
    obtain ⟨-, -, -, hs, ho, ht, he⟩ := staleFenceUpdate_ok hupdate
    exact rowOk_of_unleased (by simp [hs]) ho ht he fun _ => hs
  | expired c now =>
    rintro _ ⟨⟩
    exact rowOk_of_unleased (by simp [unclaimedExpiryUpdate]) rfl rfl rfl fun _ => rfl
  | cancelled c reason source now =>
    rintro _ ⟨⟩
    exact rowOk_of_unleased (by simp [cancelledUpdate]) rfl rfl rfl fun _ => rfl
  | marked c reason now hnone hleased =>
    rintro _ ⟨⟩
    have hc := hrow c rfl
    exact ⟨hc.leaseOwner, hc.leaseToken, hc.leaseExpiresAt, fun _ => Or.inl hleased⟩
  | removed => intro c' h; cases h

def CommandsOk (st : CommandStore) : Prop := ∀ id c, st.commands.get? id = some c → RowOk c

private theorem commandsOk_step (st : CommandStore) (op : CommandOp) (h : CommandsOk st) :
    CommandsOk (commandStep st op) :=
  fun id => (rowStep st op id).rowOk (h id)

private theorem commandsOk_exec (ops : List CommandOp) : CommandsOk (Run.exec commandStep .empty ops) := by
  refine Run.invariant_exec (P := fun _ _ => True) (fun s op h _ => commandsOk_step s op h) ?_ (Run.along_true _ _)
  intro id c h
  cases h

private theorem RowStep.settled {st : CommandStore} {op : CommandOp} {id : String} {c c' : RemoteActionCommand}
    (h : RowStep st op id (some c) (some c')) (hdone : c.status.terminal = true) : c' = c := by
  cases h with
  | kept => rfl
  | leased _ req now grants hop hopen => rw [hopen] at hdone; cases hdone
  | progressed _ details now hnone hleased => rw [hleased] at hdone; cases hdone
  | renewed _ deadline now hnone hleased => rw [hleased] at hdone; cases hdone
  | completed _ clusterId result now hop hfence hlease =>
    simp only [completable, Bool.and_eq_true, beq_iff_eq] at hlease
    rw [hlease.1.1.1] at hdone
    cases hdone
  | fenced _ _ w now result swept hnone hopen => rw [hopen] at hdone; cases hdone
  | expired _ now hnone hpending => rw [hpending] at hdone; cases hdone
  | cancelled _ reason source now hnone hopen => rw [hopen] at hdone; cases hdone
  | marked _ reason now hnone hleased => rw [hleased] at hdone; cases hdone

private theorem RowStep.pending {st : CommandStore} {op : CommandOp} {id : String} {c c' : RemoteActionCommand}
    (h : RowStep st op id (some c) (some c')) (hpending : c'.status = .pending) : c.status = .pending := by
  cases h with
  | kept => exact hpending
  | leased => cases hpending
  | progressed => exact hpending
  | renewed _ deadline now => rw [← (renewedUpdate_fields c (st.owner c) deadline now).1]; exact hpending
  | completed _ clusterId result now => exact absurd hpending (completedUpdate_status c result now).2.1
  | fenced _ _ w now result swept hnone hopen hupdate =>
    rw [(staleFenceUpdate_ok hupdate).2.2.2.1] at hpending
    cases hpending
  | expired => cases hpending
  | cancelled => cases hpending
  | marked => exact hpending

private theorem RowStep.generation {st : CommandStore} {op : CommandOp} {id : String} {c c' : RemoteActionCommand}
    (h : RowStep st op id (some c) (some c')) :
    c'.workflowRequestId = c.workflowRequestId ∧ c'.fencingToken = c.fencingToken := by
  cases h with
  | kept | leased | progressed | completed | expired | cancelled | marked => exact ⟨rfl, rfl⟩
  | renewed _ deadline now =>
    obtain ⟨-, -, -, -, hw, hf, -⟩ := renewedUpdate_fields c (st.owner c) deadline now
    exact ⟨hw, hf⟩
  | fenced _ _ w now result swept hnone hopen hupdate =>
    obtain ⟨-, hw, hf, -⟩ := staleFenceUpdate_ok hupdate
    exact ⟨hw, hf⟩

/-! ### The last claim -/

/-- In the run of `ops` on an empty store the last claim that leased the command `id` drew the token `token`. -/
def LastClaim (ops : List CommandOp) (id token : String) : Prop :=
  ∃ before op after, ops = before ++ op :: after ∧
    grantedToken (Run.exec commandStep .empty before) op id = some token ∧
    Run.Along commandStep (fun s o => grantedToken s o id = none)
      (Run.exec commandStep .empty (before ++ [op])) after

private theorem lastClaim_snoc {ops : List CommandOp} {op : CommandOp} {id token : String}
    (h : LastClaim ops id token) (hnone : grantedToken (Run.exec commandStep .empty ops) op id = none) :
    LastClaim (ops ++ [op]) id token := by
  obtain ⟨before, o, after, rfl, hgrant, hafter⟩ := h
  refine ⟨before, o, after ++ [op], by simp, hgrant, hafter.snoc ?_⟩
  rw [← Run.exec_append]
  simpa using hnone

/-- A leased row carries the token of the last claim. -/
private theorem leased_lastClaim (ops : List CommandOp) {id : String} {c : RemoteActionCommand}
    (hget : (Run.exec commandStep .empty ops).commands.get? id = some c) (hleased : c.status = .leased) :
    ∃ token, c.leaseToken = some token ∧ LastClaim ops id token := by
  induction ops using List.reverseRecOn generalizing c with
  | nil => cases hget
  | append_singleton ops op ih =>
    have hstep := rowStep (Run.exec commandStep .empty ops) op id
    rw [Run.exec_append] at hget
    change (commandStep (Run.exec commandStep .empty ops) op).commands.get? id = some c at hget
    rw [hget] at hstep
    -- a row that keeps its lease keeps its token, and the step grants none
    have hkeep : ∀ d, (Run.exec commandStep .empty ops).commands.get? id = some d → d.status = .leased →
        c.leaseToken = d.leaseToken → grantedToken (Run.exec commandStep .empty ops) op id = none →
        ∃ token, c.leaseToken = some token ∧ LastClaim (ops ++ [op]) id token := by
      intro d hd hdl htok hnone
      obtain ⟨token, htoken, hlast⟩ := ih hd hdl
      exact ⟨token, htok.trans htoken, lastClaim_snoc hlast hnone⟩
    generalize hrow : (Run.exec commandStep .empty ops).commands.get? id = row at hstep
    cases hstep with
    | kept _ hnone => exact hkeep c hrow hleased rfl hnone
    | created minted => rw [minted.status_eq] at hleased; cases hleased
    | leased d req now grants hop hopen hmark hclaim htoken =>
      exact ⟨_, rfl, ops, op, [], rfl, htoken, trivial⟩
    | progressed d details now hnone hdl => exact hkeep d hrow hdl rfl hnone
    | renewed d deadline now hnone hdl =>
      exact hkeep d hrow hdl (renewedUpdate_fields d _ deadline now).2.2.1 hnone
    | completed d clusterId result now => exact absurd hleased (completedUpdate_status d result now).1
    | fenced d _ w now result swept hnone hopen hupdate =>
      rw [(staleFenceUpdate_ok hupdate).2.2.2.1] at hleased
      cases hleased
    | expired => cases hleased
    | cancelled => cases hleased
    | marked d reason now hnone hdl => exact hkeep d hrow hdl rfl hnone

/-- A row becomes SUCCEEDED only through a completion under the token it was leased with. -/
private theorem RowStep.succeeded {st : CommandStore} {op : CommandOp} {id : String} {c c' : RemoteActionCommand}
    (h : RowStep st op id (some c) (some c')) (hbefore : c.status ≠ .succeeded) (hafter : c'.status = .succeeded) :
    ∃ clusterId result now, op = .complete clusterId id result now ∧ c.status = .leased ∧
      c.leaseToken = some result.leaseToken := by
  cases h with
  | kept => exact absurd hafter hbefore
  | leased => cases hafter
  | progressed => exact absurd hafter hbefore
  | renewed _ deadline now =>
    rw [(renewedUpdate_fields c (st.owner c) deadline now).1] at hafter
    exact absurd hafter hbefore
  | completed _ clusterId result now hop hfence hlease =>
    simp only [completable, Bool.and_eq_true, beq_iff_eq] at hlease
    exact ⟨clusterId, result, now, hop, hlease.1.1.1, hlease.1.1.2⟩
  | fenced _ _ w now result swept hnone hopen hupdate =>
    rw [(staleFenceUpdate_ok hupdate).2.2.2.1] at hafter
    cases hafter
  | expired => cases hafter
  | cancelled => cases hafter
  | marked => exact absurd hafter hbefore

/-! ### Commands that can only fail -/

/-- The row of `id` is still there after every operation of `later`: no retention sweep removed it. -/
def KeptThrough (st : CommandStore) (later : List CommandOp) (id : String) : Prop :=
  Run.Along commandStep (fun s op => ((commandStep s op).commands.get? id).isSome = true) st later

/-- No operation of `later` takes the workflow of `c` back to the generation of `c`. -/
def NeverReturns (later : List CommandOp) (c : RemoteActionCommand) : Prop :=
  ∀ w, CommandOp.putWorkflow w ∈ later → w.requestId = c.workflowRequestId → w.fencingToken ≠ c.fencingToken

/-- The row of `id` carries a cancellation mark. -/
def Marked (id : String) (st : CommandStore) : Prop :=
  ∃ c, st.commands.get? id = some c ∧ c.cancellationRequestedAt.isSome = true ∧
    (c.status = .leased ∨ c.status = .failed)

/-- The row of `id` belongs to generation `token` of `workflowId`, which has moved on, and has not succeeded. -/
def Fenced (id workflowId : String) (token : Nat) (st : CommandStore) : Prop :=
  ∃ c w, st.commands.get? id = some c ∧ c.workflowRequestId = workflowId ∧ c.fencingToken = token ∧
    c.status ≠ .succeeded ∧ st.workflows.get? workflowId = some w ∧ w.fencingToken ≠ token

/-- A marked row is not leased, stays marked and does not succeed. -/
private theorem RowStep.marked_step {st : CommandStore} {op : CommandOp} {id : String} {c c' : RemoteActionCommand}
    (h : RowStep st op id (some c) (some c')) (hmark : c.cancellationRequestedAt.isSome = true) :
    grantedToken st op id = none ∧ c'.cancellationRequestedAt.isSome = true ∧
      (c.status = .leased ∨ c.status = .failed → c'.status = .leased ∨ c'.status = .failed) := by
  cases h with
  | kept _ hnone => exact ⟨hnone, hmark, fun h => h⟩
  | leased _ req now grants hop hopen hnomark => rw [hnomark] at hmark; cases hmark
  | progressed _ details now hnone => exact ⟨hnone, hmark, fun h => h⟩
  | renewed _ deadline now hnone hleased =>
    obtain ⟨hs, -, -, -, -, -, hkeep⟩ := renewedUpdate_fields c (st.owner c) deadline now
    exact ⟨hnone, hkeep hmark, fun _ => Or.inl (hs.trans hleased)⟩
  | completed _ clusterId result now hop =>
    subst hop
    exact ⟨rfl, hmark, fun _ => Or.inr ((completedUpdate_status c result now).2.2 hmark)⟩
  | fenced _ _ w now result swept hnone hopen hupdate =>
    have hfailed := (staleFenceUpdate_ok hupdate).2.2.2.1
    unfold staleFenceUpdate at hupdate
    split at hupdate
    · cases hupdate
    · cases hupdate
      exact ⟨hnone, hmark, fun _ => Or.inr hfailed⟩
  | expired _ now hnone => exact ⟨hnone, hmark, fun _ => Or.inr rfl⟩
  | cancelled _ reason source now hnone => exact ⟨hnone, hmark, fun _ => Or.inr rfl⟩
  | marked _ reason now hnone hleased => exact ⟨hnone, rfl, fun _ => Or.inl hleased⟩

/-- A row under a stale fence is not leased and does not succeed. -/
private theorem RowStep.fenced_step {st : CommandStore} {op : CommandOp} {id : String} {c c' : RemoteActionCommand}
    (h : RowStep st op id (some c) (some c')) (hfence : staleFence c (st.owner c) = true) :
    grantedToken st op id = none ∧ (c.status ≠ .succeeded → c'.status ≠ .succeeded) := by
  cases h with
  | kept _ hnone => exact ⟨hnone, fun h => h⟩
  | leased _ req now grants hop hopen hnomark hclaim => simp [claimable, hfence] at hclaim
  | progressed _ details now hnone => exact ⟨hnone, fun h => h⟩
  | renewed _ deadline now hnone =>
    rw [(renewedUpdate_fields c (st.owner c) deadline now).1]
    exact ⟨hnone, fun h => h⟩
  | completed _ clusterId result now hop hnofence => rw [hnofence] at hfence; cases hfence
  | fenced _ _ w now result swept hnone hopen hupdate =>
    rw [(staleFenceUpdate_ok hupdate).2.2.2.1]
    exact ⟨hnone, fun _ => by simp⟩
  | expired _ now hnone => exact ⟨hnone, fun _ => by simp [unclaimedExpiryUpdate]⟩
  | cancelled _ reason source now hnone => exact ⟨hnone, fun _ => by simp [cancelledUpdate]⟩
  | marked _ reason now hnone => exact ⟨hnone, fun h => h⟩

/-- Only a write of the row changes the generation of a workflow. -/
private theorem workflow_generation (st : CommandStore) (op : CommandOp) {workflowId : String} {w : WorkflowRequest}
    (hw : st.workflows.get? workflowId = some w) :
    ∃ w', (commandStep st op).workflows.get? workflowId = some w' ∧
      (w'.fencingToken = w.fencingToken ∨ op = .putWorkflow w' ∧ w'.requestId = workflowId) := by
  cases op with
  | ensure minted =>
    simp only [commandStep, ensureRemoteCommand]
    split
    · split <;> exact ⟨w, hw, Or.inl rfl⟩
    · exact ⟨w, hw, Or.inl rfl⟩
  | claim | cancelForWorkflow | expireUnclaimed | expireStaleFenced | cleanup => exact ⟨w, hw, Or.inl rfl⟩
  | renew clusterId commandId executorId leaseToken leaseSeconds now clock =>
    simp only [commandStep]
    cases hres : st.renewRemoteCommandLease clusterId commandId executorId leaseToken leaseSeconds now clock with
    | error e => exact ⟨w, hw, Or.inl rfl⟩
    | ok res =>
      obtain ⟨c, -, hrest⟩ := bind_ok hres
      split at hrest
      · cases hrest
      · cases hrest
        exact ⟨w, hw, Or.inl rfl⟩
  | recordProgress clusterId commandId executorId leaseToken batchedResults now =>
    simp only [commandStep]
    cases hres : st.recordRemoteCommandProgress clusterId commandId executorId leaseToken batchedResults now with
    | error e => exact ⟨w, hw, Or.inl rfl⟩
    | ok res =>
      obtain ⟨c, -, hrest⟩ := bind_ok hres
      split at hrest
      · cases hrest
      · cases hrest
        exact ⟨w, hw, Or.inl rfl⟩
  | complete clusterId commandId result now =>
    simp only [commandStep]
    cases hres : st.completeRemoteCommand clusterId commandId result now with
    | error e => exact ⟨w, hw, Or.inl rfl⟩
    | ok res =>
      obtain ⟨c, -, hrest⟩ := bind_ok hres
      split at hrest
      · cases hrest
        exact ⟨w, hw, Or.inl rfl⟩
      · obtain ⟨c', -, hrest⟩ := bind_ok hrest
        cases hrest
        exact ⟨w, hw, Or.inl rfl⟩
  | cancel commandId reason now =>
    simp only [commandStep, cancelRemoteCommand]
    split
    · exact ⟨w, hw, Or.inl rfl⟩
    · split <;> exact ⟨w, hw, Or.inl rfl⟩
  | cancelOrphaned workflow actor now clock =>
    simp only [commandStep, cancelOrphanedRemoteCommands]
    split
    · exact ⟨w, hw, Or.inl rfl⟩
    · rename_i current hcurrent
      split
      · exact ⟨w, hw, Or.inl rfl⟩
      · split
        · exact ⟨w, hw, Or.inl rfl⟩
        · dsimp only
          rw [Table.get?_put]
          split
          · rename_i hid
            have hcid : current.requestId = workflow.requestId := Table.key_of_get? hcurrent
            have hsame : current = w := by
              rw [← hcid, ← show workflowId = current.requestId from hid, hw] at hcurrent
              exact (Option.some.inj hcurrent).symm
            exact ⟨_, rfl, Or.inl (by rw [← hsame])⟩
          · exact ⟨w, hw, Or.inl rfl⟩
  | putWorkflow v =>
    simp only [commandStep]
    rw [Table.get?_put]
    split
    · rename_i hid
      exact ⟨v, rfl, Or.inr ⟨rfl, hid.symm⟩⟩
    · exact ⟨w, hw, Or.inl rfl⟩

private theorem marked_step (id : String) (s : CommandStore) (op : CommandOp) (h : Marked id s)
    (hkept : ((commandStep s op).commands.get? id).isSome = true) :
    Marked id (commandStep s op) ∧ grantedToken s op id = none := by
  obtain ⟨c, hget, hmark, hstatus⟩ := h
  obtain ⟨c', hget'⟩ := Option.isSome_iff_exists.mp hkept
  have hstep := rowStep s op id
  rw [hget, hget'] at hstep
  obtain ⟨hnone, hmark', hstatus'⟩ := hstep.marked_step hmark
  exact ⟨⟨c', hget', hmark', hstatus' hstatus⟩, hnone⟩

private theorem fenced_step (id workflowId : String) (token : Nat) (s : CommandStore) (op : CommandOp)
    (h : Fenced id workflowId token s)
    (hkept : ((commandStep s op).commands.get? id).isSome = true ∧
      ∀ w, op = .putWorkflow w → w.requestId = workflowId → w.fencingToken ≠ token) :
    Fenced id workflowId token (commandStep s op) ∧ grantedToken s op id = none := by
  obtain ⟨c, w, hget, rfl, rfl, hstatus, hw, hmoved⟩ := h
  obtain ⟨c', hget'⟩ := Option.isSome_iff_exists.mp hkept.1
  have hstep := rowStep s op id
  rw [hget, hget'] at hstep
  have hfence : staleFence c (s.owner c) = true := by
    simp only [owner, hw, staleFence, bne_iff_ne]
    exact hmoved
  obtain ⟨hnone, hstatus'⟩ := hstep.fenced_step hfence
  obtain ⟨hwid, htok⟩ := hstep.generation
  obtain ⟨w', hw', hgen⟩ := workflow_generation s op hw
  refine ⟨⟨c', w', hget', hwid, htok, hstatus' hstatus, hw', ?_⟩, hnone⟩
  rcases hgen with hgen | ⟨hop, hid⟩
  · rw [hgen]
    exact hmoved
  · exact hkept.2 w' hop hid

private theorem marked_exec {st : CommandStore} {later : List CommandOp} {id : String} (h : Marked id st)
    (hkept : KeptThrough st later id) :
    Run.Along commandStep (fun s op => grantedToken s op id = none) st later ∧
      Marked id (Run.exec commandStep st later) :=
  ⟨Run.along_of_invariant (fun s op hs hp => (marked_step id s op hs hp).1)
      (fun s op hs hp => (marked_step id s op hs hp).2) h hkept,
    Run.invariant_exec (fun s op hs hp => (marked_step id s op hs hp).1) h hkept⟩

private theorem fenced_exec {st : CommandStore} {later : List CommandOp} {id workflowId : String} {token : Nat}
    (h : Fenced id workflowId token st) (hkept : KeptThrough st later id)
    (hgone : ∀ w, CommandOp.putWorkflow w ∈ later → w.requestId = workflowId → w.fencingToken ≠ token) :
    Run.Along commandStep (fun s op => grantedToken s op id = none) st later ∧
      Fenced id workflowId token (Run.exec commandStep st later) := by
  have hputs : Run.Along commandStep
      (fun _ op => ∀ w, op = .putWorkflow w → w.requestId = workflowId → w.fencingToken ≠ token) st later :=
    Run.along_of_forall_mem fun op hop _ w hw => hgone w (hw ▸ hop)
  have hall := hkept.and hputs
  exact ⟨Run.along_of_invariant (fun s op hs hp => (fenced_step id workflowId token s op hs hp).1)
      (fun s op hs hp => (fenced_step id workflowId token s op hs hp).2) h hall,
    Run.invariant_exec (fun s op hs hp => (fenced_step id workflowId token s op hs hp).1) h hall⟩

/-- The life of a remote command, in every run of the store. Lease fields are set exactly while the row is leased. A
settled row never changes, PENDING is never entered again, a row disappears only when the retention sweep removes a
settled one, and a row becomes SUCCEEDED only by a completion that carries the token of the last claim. Once a row
carries a cancellation mark, or its workflow has moved to another generation and does not come back to the one of the
row, no claim leases it again and it ends FAILED if it ends. -/
theorem remote_command_lifecycle (ops : List CommandOp) (id : String) :
    let st := Run.exec commandStep .empty ops
    (∀ c, st.commands.get? id = some c →
      (c.leaseOwner.isSome = true ↔ c.status = .leased) ∧ (c.leaseToken.isSome = true ↔ c.status = .leased) ∧
      (c.leaseExpiresAt.isSome = true ↔ c.status = .leased)) ∧
    (∀ op c, st.commands.get? id = some c → (commandStep st op).commands.get? id = none →
      c.status.terminal = true ∧ ∃ olderThan limit, op = .cleanup olderThan limit) ∧
    (∀ op c c', st.commands.get? id = some c → (commandStep st op).commands.get? id = some c' →
      (c.status.terminal = true → c' = c) ∧ (c'.status = .pending → c.status = .pending) ∧
      (c.status ≠ .succeeded → c'.status = .succeeded →
        ∃ clusterId result now, op = .complete clusterId id result now ∧ LastClaim ops id result.leaseToken)) ∧
    ∀ c later, st.commands.get? id = some c → KeptThrough st later id →
      (c.cancellationRequestedAt.isSome = true ∨
        (c.status ≠ .succeeded ∧ staleFence c (st.owner c) = true ∧ NeverReturns later c)) →
      Run.Along commandStep (fun s op => grantedToken s op id = none) st later ∧
      ∀ c', (Run.exec commandStep st later).commands.get? id = some c' → c'.status.terminal = true →
        c'.status = .failed := by
  intro st
  have hok : CommandsOk st := commandsOk_exec ops
  refine ⟨?_, ?_, ?_, ?_⟩
  · intro c hget
    have hc := hok id c hget
    exact ⟨hc.leaseOwner, hc.leaseToken, hc.leaseExpiresAt⟩
  · intro op c hget hgone
    have hstep := rowStep st op id
    rw [hget, hgone] at hstep
    cases hstep with
    | removed _ olderThan limit hop hdone => exact ⟨hdone, olderThan, limit, hop⟩
  · intro op c c' hget hget'
    have hstep := rowStep st op id
    rw [hget, hget'] at hstep
    refine ⟨hstep.settled, hstep.pending, ?_⟩
    intro hbefore hafter
    obtain ⟨clusterId, result, now, hop, hleased, htoken⟩ := hstep.succeeded hbefore hafter
    obtain ⟨token, htoken', hlast⟩ := leased_lastClaim ops hget hleased
    rw [htoken] at htoken'
    cases htoken'
    exact ⟨clusterId, result, now, hop, hlast⟩
  · intro c later hget hkept hdead
    have hends : ∀ {c' : RemoteActionCommand}, c'.status ≠ .succeeded → c'.status.terminal = true →
        c'.status = .failed := by
      intro c' hne hdone
      cases hs : c'.status <;> simp_all [RemoteCommandStatus.terminal]
    rcases hdead with hmark | ⟨hstatus, hfence, hgone⟩
    · obtain ⟨halong, c'', hget'', -, hstatus''⟩ := marked_exec ⟨c, hget, hmark, (hok id c hget).mark hmark⟩ hkept
      refine ⟨halong, fun c' hget' hdone => hends ?_ hdone⟩
      rw [hget''] at hget'
      cases hget'
      rcases hstatus'' with h | h <;> simp [h]
    · have hstart : Fenced id c.workflowRequestId c.fencingToken st := by
        unfold staleFence at hfence
        split at hfence
        · cases hfence
        · rename_i w hw
          exact ⟨c, w, hget, rfl, rfl, hstatus, hw, by simpa using hfence⟩
      obtain ⟨halong, c'', w'', hget'', -, -, hstatus'', -, -⟩ := fenced_exec hstart hkept hgone
      refine ⟨halong, fun c' hget' hdone => hends ?_ hdone⟩
      rw [hget''] at hget'
      cases hget'
      exact hstatus''

/-- A workflow row at generation `token`. -/
private def workflowAt (token : Nat) : CommandOp :=
  .putWorkflow { requestId := "w", status := .running, fencingToken := token }

private def firstGenerationCommand : RemoteActionCommand :=
  { commandId := "c", clusterId := "k", workflowRequestId := "w", fencingToken := 1,
    step := { operation := .resetGpu } }

/-- A workflow that leaves generation 1 and comes back to it lets a claim lease the command again. -/
theorem leased_after_generation_returns :
    ¬ ∀ (ops later : List CommandOp) (id : String) (c : RemoteActionCommand),
      (Run.exec commandStep .empty ops).commands.get? id = some c → c.status ≠ .succeeded →
      staleFence c ((Run.exec commandStep .empty ops).owner c) = true →
      KeptThrough (Run.exec commandStep .empty ops) later id →
      Run.Along commandStep (fun s op => grantedToken s op id = none) (Run.exec commandStep .empty ops) later := by
  intro h
  have hrun := h [workflowAt 1, .ensure ⟨firstGenerationCommand, rfl, rfl, rfl, rfl, rfl⟩, workflowAt 2]
    [workflowAt 1, .claim ⟨"k", "e", 1, 60, none, true, 1⟩ 0 fun _ => ⟨"t", 0⟩] "c" firstGenerationCommand
    (by decide) (by decide) (by decide) ⟨by decide, by decide, trivial⟩
  exact absurd hrun.2.1 (by decide)

end GpuFaultRecovery
