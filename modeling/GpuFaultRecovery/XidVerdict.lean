import GpuFaultRecovery.Selection
import GpuFaultRecovery.XidEngine

/-!
# The verdict and the order of the log

Every selection of the engine but two goes by a key that tells the events apart, so the order in which the companions
are listed does not matter to it. The two that go by time alone are the XID 154 whose action an NVLink 5 error
follows, and the companion that an XID 154 names.
-/

namespace GpuFaultRecovery

namespace Policy

open Selection

/-! ### Verdicts -/

/-- The part of a decision that acts: what is done, why, how far, and with which other event. -/
structure Verdict where
  disposition : ActionDisposition
  action : Option RecoveryAction
  officialAction : Option String
  containment : Containment
  correlatedEventId : Option String
deriving Repr, DecidableEq

def Resolution.verdict (resolution : Resolution) : Verdict :=
  { disposition := resolution.disposition
    action := resolution.action
    officialAction := resolution.officialAction
    containment := resolution.containment
    correlatedEventId := resolution.correlatedEventId }

/-- `evaluate_xid` on a fresh engine, to a recursion depth. -/
def evaluateXid (policy : XidPolicy) (fuel : Nat) (event : XidEvent) (correlation : XidCorrelation) :
    Option Verdict :=
  (resolveXid policy fuel true event correlation).map Resolution.verdict

/-- The same knowledge with the companions listed in another order. -/
def XidCorrelation.reorder (correlation : XidCorrelation) (events : List XidEvent) : XidCorrelation :=
  { correlation with companionEvents := events }

/-! ### Selections by time alone -/

section Conditions

variable (policy : XidPolicy)

def reads154 (event : XidEvent) : Bool :=
  workflowOf policy event == some "WORKFLOW_NVLINK5_ERR" &&
    match event.driverBranch, event.intrInfo, event.errorStatus with
    | some branch, some intrInfo, some errorStatus =>
      ((nvlink5Matches policy event branch intrInfo errorStatus).flatMap Prod.snd).contains "XID_154_EVAL"
    | _, _, _ => false

/-- The XID 154 events near an event whose action could be read. -/
def usable154 (event : XidEvent) (candidates : List XidEvent) : List XidEvent :=
  (findRelated policy event (· == 154) candidates).filter fun item => item.xid154Action.isSome

/-- The latest XID 154 events whose action could be read carry one action. -/
def ActionUntied (event : XidEvent) (candidates : List XidEvent) : Prop :=
  reads154 policy event = true → ∀ a b, IsTop XidEvent.observedAt (usable154 policy event candidates) a →
    IsTop XidEvent.observedAt (usable154 policy event candidates) b → a.xid154Action = b.xid154Action

def CompanionUntied (event : XidEvent) (candidates : List XidEvent) : Prop :=
  workflowOf policy event = some "XID_154" → event.xid154Action.isSome = true →
    ∀ a b, IsTop XidEvent.observedAt (findRelated policy event (· != 154) candidates) a →
      IsTop XidEvent.observedAt (findRelated policy event (· != 154) candidates) b → a.eventId = b.eventId

/-- No event that is decoded on the way meets two latest XID 154 actions. -/
def ActionsUntied : Nat → Bool → XidEvent → XidCorrelation → Prop
  | 0, _, _, _ => True
  | fuel + 1, followTwin, event, correlation =>
    match if followTwin then followedTwin event correlation else none with
    | some twin => ActionsUntied fuel false twin correlation.forTwin
    | none =>
      match if followTwin then waitsForLine policy event correlation else none with
      | some _ => True
      | none =>
        ActionUntied policy event correlation.companionEvents ∧
          ∀ item ∈ consulted policy event correlation,
            ActionsUntied fuel true item { companionEvents := correlation.companionEvents }

/-- No selection by time alone that decides an event has a tie. -/
def SelectionsUntied (fuel : Nat) (event : XidEvent) (correlation : XidCorrelation) : Prop :=
  ActionsUntied policy fuel true event correlation ∧
    (followedTwin event correlation = none → waitsForLine policy event correlation = none →
      CompanionUntied policy event correlation.companionEvents)

end Conditions

/-! ### Another order of the log -/

def Resolution.unlinked (resolution : Resolution) : Resolution := { resolution with correlatedEventId := none }

private theorem link_eq_of_unlinked {r r' : Resolution} (h : r.unlinked = r'.unlinked) (link : Option String) :
    { r with correlatedEventId := link } = { r' with correlatedEventId := link } := by
  have hlink := congrArg (fun s : Resolution => { s with correlatedEventId := link }) h
  exact hlink

section Reorder

variable {policy : XidPolicy} {event : XidEvent} {correlation : XidCorrelation} {events candidates : List XidEvent}

private theorem findRelated_perm {xids : Nat → Bool} (hperm : events.Perm candidates) :
    (findRelated policy event xids events).Perm (findRelated policy event xids candidates) := hperm.filter _

private theorem mem_of_findRelated {xids : Nat → Bool} {item : XidEvent}
    (h : item ∈ findRelated policy event xids candidates) : item ∈ candidates := (List.mem_filter.1 h).1

private theorem eq_of_eventId (hids : (candidates.map XidEvent.eventId).Nodup) {a b : XidEvent} (ha : a ∈ candidates)
    (hb : b ∈ candidates) (h : a.eventId = b.eventId) : a = b := List.inj_on_of_nodup_map hids ha hb h

private theorem eventId_of_eventKey {a b : XidEvent} (h : eventKey a = eventKey b) : a.eventId = b.eventId := by
  have hpair : (a.observedAt, a.eventId) = (b.observedAt, b.eventId) := toLex.injective h
  exact (Prod.mk.inj hpair).2

private theorem eventId_of_twinKey {a b : XidEvent} (h : twinKey event a = twinKey event b) :
    a.eventId = b.eventId := by
  have houter := toLex.injective h
  have hinner := toLex.injective (Prod.mk.inj houter).2
  exact (Prod.mk.inj hinner).2

private theorem latest_perm (hids : (candidates.map XidEvent.eventId).Nodup) {l l' : List XidEvent} (h : l.Perm l')
    (hl : ∀ item ∈ l, item ∈ candidates) : l'.argmax eventKey = l.argmax eventKey := by
  refine (argmax_perm h ?_).symm
  intro a ha b hb hkey
  exact eq_of_eventId hids (hl a ha) (hl b hb) (eventId_of_eventKey hkey)

private theorem nvlink5Resolution_not_evaluated {rule : CatalogRule} {found : List (NvlinkDecodeRule × List String)}
    (h : "XID_154_EVAL" ∉ found.flatMap Prod.snd) (action action' : Option DynamicRecoveryAction)
    (closed closed' : Bool) :
    nvlink5Resolution policy event rule found action closed =
      nvlink5Resolution policy event rule found action' closed' := by
  have hno : (found.flatMap Prod.snd).contains "XID_154_EVAL" = false := by
    simpa using h
  unfold nvlink5Resolution
  simp only [hno, Bool.false_and, Bool.false_eq_true, if_false]

variable (hids : (correlation.companionEvents.map XidEvent.eventId).Nodup)
  (hperm : events.Perm correlation.companionEvents)

include hids hperm

private theorem followedTwin_reorder :
    followedTwin event (correlation.reorder events) = followedTwin event correlation := by
  unfold followedTwin
  split
  · refine congrArg (Option.bind correlation.pairedReportIds) (funext fun paired => ?_)
    refine (argmin_perm (hperm.symm.filter _) ?_).symm
    intro a ha b hb hkey
    exact eq_of_eventId hids (List.mem_filter.1 ha).1 (List.mem_filter.1 hb).1 (eventId_of_twinKey hkey)
  · rfl

private theorem withXid48Backlink_reorder (resolution : Resolution) :
    withXid48Backlink policy event resolution events =
      withXid48Backlink policy event resolution correlation.companionEvents := by
  have hrelated := (@findRelated_perm policy event _ _ (· == 48) hperm).filter fun item =>
    decide (eventKey item < eventKey event)
  have hsame := latest_perm hids hrelated.symm fun item hitem => mem_of_findRelated (List.mem_filter.1 hitem).1
  unfold withXid48Backlink
  dsimp only
  rw [hsame]

omit hids in
private theorem findXid154Event_reorder
    (h : ∀ a b, IsTop XidEvent.observedAt (usable154 policy event correlation.companionEvents) a →
      IsTop XidEvent.observedAt (usable154 policy event correlation.companionEvents) b →
        a.xid154Action = b.xid154Action) :
    (findXid154Event policy event events).bind XidEvent.xid154Action =
      (findXid154Event policy event correlation.companionEvents).bind XidEvent.xid154Action := by
  have hsame := @map_argmax_perm _ _ _ _ XidEvent.observedAt XidEvent.xid154Action _ _
    ((findRelated_perm hperm.symm).filter _) h
  have hbind := congrArg (Option.bind · id) hsame
  simpa only [Option.bind_map, Function.id_comp, findXid154Event] using hbind.symm

omit hids in
private theorem workflowNvlink5_reorder (rule : CatalogRule)
    (hworkflow : workflowOf policy event = some "WORKFLOW_NVLINK5_ERR")
    (h : ActionUntied policy event correlation.companionEvents) :
    workflowNvlink5 policy event rule (correlation.reorder events) =
      workflowNvlink5 policy event rule correlation := by
  unfold workflowNvlink5
  dsimp only
  split
  case h_2 => rfl
  case h_1 branch intrInfo errorStatus hbranch hintr hstatus =>
    by_cases heval : reads154 policy event = true
    · simp only [XidCorrelation.reorder, findXid154Event_reorder hperm (h heval)]
    · have hno : "XID_154_EVAL" ∉ (nvlink5Matches policy event branch intrInfo errorStatus).flatMap Prod.snd := by
        simpa [reads154, hworkflow, hbranch, hintr, hstatus] using heval
      exact ite_congr rfl (fun _ => rfl) fun _ => nvlink5Resolution_not_evaluated hno _ _ _ _

omit hids hperm in
private theorem workflowXid154_unlinked (rule : CatalogRule) :
    (workflowXid154 policy event rule (correlation.reorder events)).unlinked =
      (workflowXid154 policy event rule correlation).unlinked := by
  unfold workflowXid154
  cases event.xid154Action with
  | none => rfl
  | some action =>
    obtain ⟨companions, closed45, closed154, paired, closedTwin⟩ := correlation
    cases closed154 with
    | false => rfl
    | true => cases action <;> rfl

omit hids in
private theorem workflowXid154_reorder (rule : CatalogRule) (hworkflow : workflowOf policy event = some "XID_154")
    (h : CompanionUntied policy event correlation.companionEvents) :
    workflowXid154 policy event rule (correlation.reorder events) = workflowXid154 policy event rule correlation := by
  unfold workflowXid154
  cases haction : event.xid154Action with
  | none => rfl
  | some action =>
    have hsome : event.xid154Action.isSome = true := by rw [haction]; rfl
    have hsame := @map_argmax_perm _ _ _ _ XidEvent.observedAt XidEvent.eventId _ _ (findRelated_perm hperm.symm)
      (h hworkflow hsome)
    dsimp only [XidCorrelation.reorder, findXid154Companion]
    rw [hsame]
    rfl

def unlinkedEntry (entry : XidEvent × Resolution) : XidEvent × Resolution := (entry.1, entry.2.unlinked)

omit hids hperm in
/-- Companions whose resolutions differ in their links alone are resolved to the same entries, in another order. -/
private theorem resolvedCompanions_reorder {resolve resolve' : Resolver} {companions companions' : List XidEvent}
    (hcompanions : companions.Perm companions')
    (hsame : ∀ item ∈ companions', (resolve' true item { companionEvents := events }).map Resolution.unlinked =
      (resolve true item { companionEvents := correlation.companionEvents }).map Resolution.unlinked) :
    (resolvedCompanions resolve' companions events = none ∧
      resolvedCompanions resolve companions' correlation.companionEvents = none) ∨
    ∃ resolved' resolved, resolvedCompanions resolve' companions events = some resolved' ∧
      resolvedCompanions resolve companions' correlation.companionEvents = some resolved ∧
      (resolved'.map unlinkedEntry).Perm (resolved.map unlinkedEntry) := by
  have hentries : (resolvedCompanions resolve' companions' events).map (List.map unlinkedEntry) =
      (resolvedCompanions resolve companions' correlation.companionEvents).map (List.map unlinkedEntry) := by
    unfold resolvedCompanions
    rw [map_mapM, map_mapM]
    refine mapM_congr_of_mem ?_
    intro item hitem
    have hpair := congrArg (Option.map (Prod.mk item)) (hsame item hitem)
    rw [Option.map_map, Option.map_map] at hpair
    rw [Option.map_map, Option.map_map]
    exact hpair
  cases hresolved' : resolvedCompanions resolve' companions events with
  | none =>
    refine .inl ⟨rfl, ?_⟩
    cases hresolved : resolvedCompanions resolve companions' correlation.companionEvents with
    | none => rfl
    | some resolved =>
      rw [hresolved, Option.map_some, Option.map_eq_some_iff] at hentries
      obtain ⟨_, hother, _⟩ := hentries
      obtain ⟨_, hback, _⟩ := exists_mapM_perm hcompanions.symm _ hother
      exact absurd (hresolved'.symm.trans hback) (by simp)
  | some resolved' =>
    obtain ⟨other, hother, hperm'⟩ := exists_mapM_perm hcompanions _ hresolved'
    rw [show resolvedCompanions resolve' companions' events = some other from hother, Option.map_some] at hentries
    obtain ⟨resolved, hresolved, heq⟩ := Option.map_eq_some_iff.1 hentries.symm
    refine .inr ⟨resolved', resolved, rfl, hresolved, ?_⟩
    rw [heq]
    exact hperm'.map unlinkedEntry

omit hids hperm in
private theorem mostSevere_unlinked (resolved : List (XidEvent × Resolution)) :
    mostSevere (resolved.map unlinkedEntry) = (mostSevere resolved).map unlinkedEntry :=
  argmax_map unlinkedEntry (fun _ => rfl) resolved

omit hids hperm in
private theorem mostSevere_perm {resolved resolved' : List (XidEvent × Resolution)}
    (hdistinct : ((resolved.map Prod.fst).map XidEvent.eventId).Nodup)
    (h : (resolved'.map unlinkedEntry).Perm (resolved.map unlinkedEntry)) :
    (mostSevere resolved').map unlinkedEntry = (mostSevere resolved).map unlinkedEntry := by
  rw [← mostSevere_unlinked, ← mostSevere_unlinked]
  refine (argmax_perm h.symm ?_).symm
  intro a ha b hb hkey
  have hid : a.1.eventId = b.1.eventId := eventId_of_eventKey (Prod.mk.inj (toLex.injective hkey)).2
  have hnodup : ((resolved.map unlinkedEntry).map fun entry => entry.1.eventId).Nodup := by
    simpa [List.map_map, Function.comp_def, unlinkedEntry] using hdistinct
  exact List.inj_on_of_nodup_map hnodup ha hb hid

omit hperm in
private theorem nodup_of_findRelated {xids : Nat → Bool} :
    ((findRelated policy event xids correlation.companionEvents).map XidEvent.eventId).Nodup :=
  hids.sublist (List.filter_sublist.map XidEvent.eventId)

private theorem workflowXid45_reorder {resolve resolve' : Resolver} (rule : CatalogRule)
    (hsame : correlation.xid45WindowClosed = true →
      ∀ item ∈ findRelated policy event (· != 45) correlation.companionEvents,
        (resolve' true item { companionEvents := events }).map Resolution.unlinked =
          (resolve true item { companionEvents := correlation.companionEvents }).map Resolution.unlinked) :
    workflowXid45 policy resolve' event rule (correlation.reorder events) =
      workflowXid45 policy resolve event rule correlation := by
  unfold workflowXid45
  by_cases hclosed : correlation.xid45WindowClosed = true
  · simp only [XidCorrelation.reorder, hclosed, Bool.not_true, Bool.false_eq_true, if_false]
    rcases resolvedCompanions_reorder (findRelated_perm hperm) (hsame hclosed) with
      ⟨hnone', hnone⟩ | ⟨resolved', resolved, hsome', hsome, hentries⟩
    · rw [hnone', hnone]
    · have hdistinct : ((resolved.map Prod.fst).map XidEvent.eventId).Nodup := by
        rw [fst_of_resolvedCompanions hsome]
        exact nodup_of_findRelated hids
      have hsevere := mostSevere_perm hdistinct hentries
      rw [hsome', hsome, Option.map_some, Option.map_some]
      cases hm' : mostSevere resolved' with
      | none =>
        rw [hm'] at hsevere
        rw [Option.map_eq_none_iff.1 hsevere.symm]
      | some entry' =>
        rw [hm'] at hsevere
        obtain ⟨entry, hm, heq⟩ := Option.map_eq_some_iff.1 hsevere.symm
        obtain ⟨hevent, hresolution⟩ := Prod.mk.inj heq
        rw [hm]
        dsimp only
        rw [hevent, link_eq_of_unlinked hresolution]
  · simp only [XidCorrelation.reorder, hclosed]
    rfl

omit hids hperm in
private theorem resetEquivalent_unlinked (resolved : List (XidEvent × Resolution)) :
    resetEquivalent (resolved.map unlinkedEntry) = resetEquivalent resolved := by
  unfold resetEquivalent
  dsimp only
  rw [List.filter_map, argmax_map unlinkedEntry (fun _ => rfl), Option.map_map]
  rfl

omit hids hperm in
private theorem resetEquivalent_perm {resolved resolved' : List (XidEvent × Resolution)}
    (hdistinct : ((resolved.map Prod.fst).map XidEvent.eventId).Nodup)
    (h : (resolved'.map unlinkedEntry).Perm (resolved.map unlinkedEntry)) :
    resetEquivalent resolved' = resetEquivalent resolved := by
  rw [← resetEquivalent_unlinked, ← resetEquivalent_unlinked resolved]
  unfold resetEquivalent
  dsimp only
  refine congrArg (Option.map _) (argmax_perm (h.symm.filter _) ?_).symm
  intro a ha b hb hkey
  have hnodup : ((resolved.map unlinkedEntry).map fun entry => entry.1.eventId).Nodup := by
    simpa [List.map_map, Function.comp_def, unlinkedEntry] using hdistinct
  exact List.inj_on_of_nodup_map hnodup (List.mem_filter.1 ha).1 (List.mem_filter.1 hb).1 (eventId_of_eventKey hkey)

private theorem workflowXid48_reorder {resolve resolve' : Resolver} (rule : CatalogRule)
    (hsame : ∀ item ∈ findRelated policy event (fun xid => xid == 63 || xid == 64) correlation.companionEvents,
      (resolve' true item { companionEvents := events }).map Resolution.unlinked =
        (resolve true item { companionEvents := correlation.companionEvents }).map Resolution.unlinked) :
    workflowXid48 policy resolve' event rule (correlation.reorder events) =
      workflowXid48 policy resolve event rule correlation := by
  unfold workflowXid48
  dsimp only [XidCorrelation.reorder]
  have hrelated := @findRelated_perm policy event _ _ (fun xid => xid == 63 || xid == 64) hperm
  rw [hrelated.isEmpty_eq]
  refine ite_congr rfl (fun _ => rfl) fun _ => ?_
  rcases resolvedCompanions_reorder hrelated hsame with
    ⟨hnone', hnone⟩ | ⟨resolved', resolved, hsome', hsome, hentries⟩
  · rw [hnone', hnone]
  · have hdistinct : ((resolved.map Prod.fst).map XidEvent.eventId).Nodup := by
      rw [fst_of_resolvedCompanions hsome]
      exact nodup_of_findRelated hids
    rw [hsome', hsome, Option.map_some, Option.map_some, resetEquivalent_perm hdistinct hentries]

private theorem resolveByCatalog_reorder {resolve resolve' : Resolver}
    (haction : ActionUntied policy event correlation.companionEvents)
    (hcompanion : CompanionUntied policy event correlation.companionEvents)
    (hsame : ∀ item ∈ consulted policy event correlation,
      (resolve' true item { companionEvents := events }).map Resolution.unlinked =
        (resolve true item { companionEvents := correlation.companionEvents }).map Resolution.unlinked) :
    resolveByCatalog policy resolve' event (correlation.reorder events) =
      resolveByCatalog policy resolve event correlation := by
  rcases resolveByCatalog_cases policy event with ⟨resolution, _, hfixed⟩ | ⟨rule, official, _, hworkflow, hcases⟩
  · rw [hfixed, hfixed]
  rcases hcases with ⟨action, _, hdirect⟩ | ⟨rfl, h154⟩ | ⟨rfl, h45⟩ | ⟨rfl, h48⟩ | ⟨rfl, h5⟩
  · rw [hdirect, hdirect]
    exact congrArg some (withXid48Backlink_reorder hids hperm _)
  · rw [h154, h154, workflowXid154_reorder hperm rule hworkflow hcompanion]
  · rw [h45, h45]
    refine workflowXid45_reorder hids hperm rule fun hclosed item hitem => hsame item ?_
    simpa [consulted, hworkflow, hclosed] using hitem
  · rw [h48, h48]
    refine workflowXid48_reorder hids hperm rule fun item hitem => hsame item ?_
    simpa [consulted, hworkflow] using hitem
  · rw [h5, h5, workflowNvlink5_reorder hperm rule hworkflow haction]

/-- Links apart, only a tie between XID 154 actions reaches the outcome. -/
private theorem resolveByCatalog_unlinked {resolve resolve' : Resolver}
    (haction : ActionUntied policy event correlation.companionEvents)
    (hsame : ∀ item ∈ consulted policy event correlation,
      (resolve' true item { companionEvents := events }).map Resolution.unlinked =
        (resolve true item { companionEvents := correlation.companionEvents }).map Resolution.unlinked) :
    (resolveByCatalog policy resolve' event (correlation.reorder events)).map Resolution.unlinked =
      (resolveByCatalog policy resolve event correlation).map Resolution.unlinked := by
  by_cases hworkflow : workflowOf policy event = some "XID_154"
  · rcases resolveByCatalog_cases policy event with ⟨resolution, _, hfixed⟩ | ⟨rule, official, _, hofficial, hcases⟩
    · rw [hfixed, hfixed]
    rw [hworkflow] at hofficial
    cases hofficial
    rcases hcases with ⟨action, hdirect, _⟩ | ⟨_, h154⟩ | ⟨h, _⟩ | ⟨h, _⟩ | ⟨h, _⟩
    · have hnone : directAction "XID_154" = none := rfl
      rw [hnone] at hdirect
      cases hdirect
    · rw [h154, h154, Option.map_some, Option.map_some, workflowXid154_unlinked]
    all_goals exact absurd h (by decide)
  · have hcompanion : CompanionUntied policy event correlation.companionEvents := fun h => absurd h hworkflow
    rw [resolveByCatalog_reorder hids hperm haction hcompanion hsame]

end Reorder

section Induction

variable {policy : XidPolicy} {events : List XidEvent}

/-- By induction on the depth: the resolution of an event differs in its link at most, in any order of the log. -/
private theorem resolveXid_unlinked (fuel : Nat) :
    ∀ (followTwin : Bool) (event : XidEvent) (correlation : XidCorrelation),
      (correlation.companionEvents.map XidEvent.eventId).Nodup → events.Perm correlation.companionEvents →
      ActionsUntied policy fuel followTwin event correlation →
      (resolveXid policy fuel followTwin event (correlation.reorder events)).map Resolution.unlinked =
        (resolveXid policy fuel followTwin event correlation).map Resolution.unlinked := by
  induction fuel with
  | zero => exact fun _ _ _ _ _ _ => rfl
  | succ fuel ih =>
    intro followTwin event correlation hids hperm huntied
    have htwin := @followedTwin_reorder event correlation events hids hperm
    unfold ActionsUntied at huntied
    simp only [resolveXid, resolveStep, htwin]
    cases hfollow : if followTwin then followedTwin event correlation else none with
    | some twin =>
      rw [hfollow] at huntied
      have hsame := ih false twin correlation.forTwin hids hperm huntied
      have hlink := congrArg (Option.map fun r : Resolution => { r with correlatedEventId := none }) hsame
      dsimp only
      rw [Option.map_map, Option.map_map]
      rw [Option.map_map, Option.map_map] at hlink
      exact hlink
    | none =>
      rw [hfollow] at huntied
      dsimp only at huntied ⊢
      rw [show waitsForLine policy event (correlation.reorder events) =
        waitsForLine policy event correlation from rfl]
      cases hwait : if followTwin then waitsForLine policy event correlation else none with
      | some waiting => rfl
      | none =>
        rw [hwait] at huntied
        obtain ⟨haction, hconsulted⟩ := huntied
        exact resolveByCatalog_unlinked hids hperm haction fun item hitem =>
          ih true item { companionEvents := correlation.companionEvents } hids hperm (hconsulted item hitem)

/-- Without a tie the whole resolution is the same in every order of the log. -/
private theorem resolveXid_reorder {fuel : Nat} {event : XidEvent} {correlation : XidCorrelation}
    (hids : (correlation.companionEvents.map XidEvent.eventId).Nodup)
    (hperm : events.Perm correlation.companionEvents) (huntied : SelectionsUntied policy fuel event correlation) :
    resolveXid policy fuel true event (correlation.reorder events) =
      resolveXid policy fuel true event correlation := by
  cases fuel with
  | zero => rfl
  | succ fuel =>
    obtain ⟨hactions, hcompanion⟩ := huntied
    have htwin := @followedTwin_reorder event correlation events hids hperm
    unfold ActionsUntied at hactions
    simp only [if_true] at hactions
    simp only [resolveXid, resolveStep, htwin, if_true]
    cases hfollow : followedTwin event correlation with
    | some twin =>
      rw [hfollow] at hactions
      have hsame := resolveXid_unlinked fuel false twin correlation.forTwin hids hperm hactions
      have hlink :=
        congrArg (Option.map fun r : Resolution => { r with correlatedEventId := some twin.eventId }) hsame
      rw [Option.map_map, Option.map_map] at hlink
      exact hlink
    | none =>
      rw [hfollow] at hactions
      dsimp only at hactions ⊢
      rw [show waitsForLine policy event (correlation.reorder events) =
        waitsForLine policy event correlation from rfl]
      cases hwait : waitsForLine policy event correlation with
      | some waiting => rfl
      | none =>
        rw [hwait] at hactions
        obtain ⟨haction, hconsulted⟩ := hactions
        refine resolveByCatalog_reorder hids hperm haction (hcompanion hfollow hwait) fun item hitem => ?_
        exact resolveXid_unlinked fuel true item { companionEvents := correlation.companionEvents } hids hperm
          (hconsulted item hitem)

end Induction

/-! ### A tie shows -/

section Ties

variable {policy : XidPolicy} {event : XidEvent} {correlation : XidCorrelation}

private theorem dynamicRecoveryResolution_official (action : DynamicRecoveryAction) (rule : CatalogRule)
    (link : Option String) (state : WorkloadState) :
    (dynamicRecoveryResolution action rule link state).officialAction = some action.value := by
  cases action <;> rfl

private theorem value_injective {a b : DynamicRecoveryAction} (h : a.value = b.value) : a = b := by
  cases a <;> cases b <;> first | rfl | exact absurd h (by decide)

/-- An NVLink 5 error that reads an XID 154 answers with its action. -/
private theorem resolveByCatalog_reads154 (hreads : reads154 policy event = true) {item : XidEvent}
    {action : DynamicRecoveryAction} (hitem : findXid154Event policy event correlation.companionEvents = some item)
    (haction : item.xid154Action = some action) (resolve : Resolver) :
    ∃ resolution, resolveByCatalog policy resolve event correlation = some resolution ∧
      resolution.officialAction = some action.value := by
  unfold reads154 at hreads
  rw [Bool.and_eq_true, beq_iff_eq] at hreads
  obtain ⟨hworkflow, hdecode⟩ := hreads
  obtain ⟨rule, hrule, himmediate, hown, hpast⟩ := rule_of_workflowOf hworkflow
  have hnone : event.xid154Action = none := by
    simpa [ownAction, himmediate] using hown
  refine ⟨workflowNvlink5 policy event rule correlation, ?_, ?_⟩
  · rw [hpast]
    simp only [resolveByAction, himmediate]
    rfl
  · split at hdecode
    case h_2 => cases hdecode
    case h_1 branch intrInfo errorStatus hbranch hintr hstatus =>
      have hfound : (nvlink5Matches policy event branch intrInfo errorStatus).isEmpty = false := by
        cases hmatches : nvlink5Matches policy event branch intrInfo errorStatus with
        | nil =>
          rw [hmatches] at hdecode
          exact absurd hdecode (by decide)
        | cons => rfl
      simp only [workflowNvlink5, hbranch, hintr, hstatus, hfound, hnone, hitem, haction, nvlink5Resolution, hdecode,
        Option.orElse_none, Option.bind_some, Option.isNone_some, Bool.and_false, Bool.false_and, Bool.false_eq_true,
        if_false]
      exact dynamicRecoveryResolution_official action rule none event.workloadState

private theorem usable154_eq (candidates : List XidEvent) :
    usable154 policy event candidates = candidates.filter fun item => item.xid154Action.isSome &&
      ((item.xid == 154) && item.eventId != event.eventId && item.clusterId == event.clusterId &&
        item.nodeId == event.nodeId && sameGpu event item && sameBoot event item &&
        decide (timeApart item event ≤ policy.companionWindow)) := List.filter_filter

private theorem exists_findXid154Event {candidates : List XidEvent} {a : XidEvent}
    (ha : a ∈ usable154 policy event candidates) :
    ∃ item action, findXid154Event policy event candidates = some item ∧ item.xid154Action = some action := by
  cases hitem : findXid154Event policy event candidates with
  | none =>
    have hnil : usable154 policy event candidates = [] := List.argmax_eq_none.1 hitem
    rw [hnil] at ha
    exact absurd ha List.not_mem_nil
  | some item =>
    have hmem : item ∈ usable154 policy event candidates := List.argmax_mem hitem
    obtain ⟨action, haction⟩ := Option.isSome_iff_exists.1 (List.mem_filter.1 hmem).2
    exact ⟨item, action, rfl, haction⟩

/-- If the official action does not depend on the order, the latest XID 154 events carry one action. -/
private theorem actionUntied_of_catalog (resolve : Resolver)
    (h : ∀ events : List XidEvent, events.Perm correlation.companionEvents →
      (resolveByCatalog policy resolve event (correlation.reorder events)).map Resolution.officialAction =
        (resolveByCatalog policy resolve event correlation).map Resolution.officialAction) :
    ActionUntied policy event correlation.companionEvents := by
  intro hreads a b ha hb
  have hanswer : ∀ events : List XidEvent, events.Perm correlation.companionEvents →
      (findXid154Event policy event events).map (fun item => item.xid154Action.map DynamicRecoveryAction.value) =
        (resolveByCatalog policy resolve event (correlation.reorder events)).map Resolution.officialAction := by
    intro events hperm
    have hmem : a ∈ usable154 policy event events :=
      ((findRelated_perm hperm.symm).filter _).subset ha.1
    obtain ⟨item, action, hitem, haction⟩ := exists_findXid154Event hmem
    obtain ⟨resolution, hresolution, hofficial⟩ :=
      @resolveByCatalog_reads154 policy event (correlation.reorder events) hreads item action hitem haction resolve
    rw [hitem, hresolution, Option.map_some, Option.map_some, haction, hofficial, Option.map_some]
  have hlook := @look_eq_of_perm _ _ _ _ XidEvent.observedAt
    (fun item => item.xid154Action.map DynamicRecoveryAction.value) correlation.companionEvents a b _ _
    (fun events hperm => by
      have hself := hanswer correlation.companionEvents (List.Perm.refl _)
      have hother := hanswer events hperm
      rw [h events hperm] at hother
      have hsame := hother.trans hself.symm
      unfold findXid154Event at hsame
      rw [← usable154, ← usable154, usable154_eq, usable154_eq] at hsame
      exact hsame)
    (usable154_eq correlation.companionEvents ▸ ha) (usable154_eq correlation.companionEvents ▸ hb)
  obtain ⟨x, hx⟩ := Option.isSome_iff_exists.1 (List.mem_filter.1 ha.1).2
  obtain ⟨y, hy⟩ := Option.isSome_iff_exists.1 (List.mem_filter.1 hb.1).2
  rw [hx, hy, Option.map_some, Option.map_some] at hlook
  rw [hx, hy, value_injective (Option.some.inj hlook)]

/-- If the link does not depend on the order, an XID 154 with an action has one latest companion. -/
private theorem companionUntied_of_catalog (resolve : Resolver)
    (h : ∀ events : List XidEvent, events.Perm correlation.companionEvents →
      (resolveByCatalog policy resolve event (correlation.reorder events)).map Resolution.correlatedEventId =
        (resolveByCatalog policy resolve event correlation).map Resolution.correlatedEventId) :
    CompanionUntied policy event correlation.companionEvents := by
  intro hworkflow hsome a b ha hb
  obtain ⟨rule, hrule, himmediate, hown, hpast⟩ := rule_of_workflowOf hworkflow
  obtain ⟨action, haction⟩ := Option.isSome_iff_exists.1 hsome
  have hlink : ∀ events : List XidEvent,
      (resolveByCatalog policy resolve event (correlation.reorder events)).map Resolution.correlatedEventId =
        some ((findXid154Companion policy event events).map XidEvent.eventId) := by
    intro events
    have hstep : resolveByCatalog policy resolve event (correlation.reorder events) =
        some (workflowXid154 policy event rule (correlation.reorder events)) := by
      rw [hpast]
      simp only [resolveByAction, himmediate]
      rfl
    rw [hstep, Option.map_some]
    unfold workflowXid154
    simp only [haction]
    split
    · rfl
    · rw [dynamicRecoveryResolution_link]
      rfl
  refine @look_eq_of_perm _ _ _ _ XidEvent.observedAt XidEvent.eventId correlation.companionEvents a b _ _ ?_ ha hb
  intro events hperm
  have hself := hlink correlation.companionEvents
  have hother := hlink events
  rw [h events hperm] at hother
  exact Option.some.inj (hother.symm.trans hself)

end Ties

/-! ### The order of the log -/

def consultsCompanions (policy : XidPolicy) (event : XidEvent) : Bool :=
  (policy.rule event.xid).any fun rule =>
    rule.immediateAction == some "WORKFLOW_XID_45" || rule.immediateAction == some "WORKFLOW_XID_48"

private theorem consulted_eq_nil {policy : XidPolicy} {event : XidEvent} (h : consultsCompanions policy event = false)
    (correlation : XidCorrelation) : consulted policy event correlation = [] := by
  have hnot : ∀ official, official = "WORKFLOW_XID_45" ∨ official = "WORKFLOW_XID_48" →
      workflowOf policy event ≠ some official := by
    intro official hofficial hworkflow
    obtain ⟨rule, hrule, himmediate, _⟩ := rule_of_workflowOf hworkflow
    rcases hofficial with rfl | rfl <;> simp [consultsCompanions, hrule, himmediate] at h
  unfold consulted
  rw [if_neg (hnot _ (.inl rfl)), if_neg (hnot _ (.inr rfl))]

section Theorem

variable (policy : XidPolicy) (fuel : Nat) (event : XidEvent) (correlation : XidCorrelation)

/-- A verdict that every order of the log gives had no tie to break, unless companions were consulted. -/
private theorem selectionsUntied_of_verdict (hdirect : consultsCompanions policy event = false)
    (h : ∀ events : List XidEvent, events.Perm correlation.companionEvents →
      evaluateXid policy (fuel + 2) event (correlation.reorder events) =
        evaluateXid policy (fuel + 2) event correlation)
    (hids : (correlation.companionEvents.map XidEvent.eventId).Nodup) :
    SelectionsUntied policy (fuel + 2) event correlation := by
  unfold evaluateXid at h
  simp only [resolveXid, resolveStep, if_true] at h
  unfold SelectionsUntied ActionsUntied
  simp only [if_true]
  cases hfollow : followedTwin event correlation with
  | some twin =>
    have hcatalog : ∀ events : List XidEvent, events.Perm correlation.forTwin.companionEvents →
        (resolveByCatalog policy (resolveXid policy fuel) twin (correlation.forTwin.reorder events)).map
            Resolution.officialAction =
          (resolveByCatalog policy (resolveXid policy fuel) twin correlation.forTwin).map
            Resolution.officialAction := by
      intro events hperm
      have hverdict := congrArg (Option.map Verdict.officialAction) (h events hperm)
      rw [followedTwin_reorder hids hperm, hfollow] at hverdict
      simp only [Bool.false_eq_true, if_false, Option.map_map] at hverdict
      exact hverdict
    have hnone : consulted policy twin correlation.forTwin = [] := by
      refine consulted_eq_nil ?_ _
      rw [consultsCompanions, xid_of_followedTwin hfollow]
      exact hdirect
    refine ⟨?_, fun h => by cases h⟩
    unfold ActionsUntied
    simp only [Bool.false_eq_true, if_false, hnone, List.not_mem_nil, false_imp_iff, implies_true, and_true]
    exact actionUntied_of_catalog (resolveXid policy fuel) hcatalog
  | none =>
    dsimp only
    cases hwait : waitsForLine policy event correlation with
    | some waiting => exact ⟨trivial, fun _ h => by cases h⟩
    | none =>
      have hcatalog : ∀ events : List XidEvent, events.Perm correlation.companionEvents →
          (resolveByCatalog policy (resolveStep policy (resolveXid policy fuel)) event
            (correlation.reorder events)).map
              Resolution.verdict =
            (resolveByCatalog policy (resolveStep policy (resolveXid policy fuel)) event correlation).map
              Resolution.verdict := by
        intro events hperm
        have hverdict := h events hperm
        rw [followedTwin_reorder hids hperm, hfollow,
          show waitsForLine policy event (correlation.reorder events) =
            waitsForLine policy event correlation from rfl,
          hwait] at hverdict
        exact hverdict
      refine ⟨⟨actionUntied_of_catalog (resolveStep policy (resolveXid policy fuel)) fun events hperm => ?_, ?_⟩,
        fun _ _ => companionUntied_of_catalog (resolveStep policy (resolveXid policy fuel)) fun events hperm => ?_⟩
      · have hverdict := congrArg (Option.map Verdict.officialAction) (hcatalog events hperm)
        rw [Option.map_map, Option.map_map] at hverdict
        exact hverdict
      · rw [consulted_eq_nil hdirect]
        exact fun item hitem => absurd hitem List.not_mem_nil
      · have hverdict := congrArg (Option.map Verdict.correlatedEventId) (hcatalog events hperm)
        rw [Option.map_map, Option.map_map] at hverdict
        exact hverdict

/-- The verdict of an event is the same in every order of the log when no selection by time alone has a tie; and where
no companion is consulted, only then. -/
theorem verdict_ignores_log_order (hids : (correlation.companionEvents.map XidEvent.eventId).Nodup) :
    (SelectionsUntied policy (fuel + 2) event correlation →
      ∀ events : List XidEvent, events.Perm correlation.companionEvents →
        evaluateXid policy (fuel + 2) event (correlation.reorder events) =
          evaluateXid policy (fuel + 2) event correlation) ∧
    (consultsCompanions policy event = false →
      (∀ events : List XidEvent, events.Perm correlation.companionEvents →
        evaluateXid policy (fuel + 2) event (correlation.reorder events) =
          evaluateXid policy (fuel + 2) event correlation) →
      SelectionsUntied policy (fuel + 2) event correlation) := by
  refine ⟨fun huntied events hperm => ?_, fun hdirect h => selectionsUntied_of_verdict policy fuel event correlation
    hdirect h hids⟩
  unfold evaluateXid
  rw [resolveXid_reorder hids hperm huntied]

/-- A catalog in which XID 145 is decoded, and its decode asks for the action of an XID 154. -/
private def decodingPolicy : XidPolicy :=
  { companionWindow := 30
    catalogRules := [{ xid := 145, products := ["B100"], immediateAction := some "WORKFLOW_NVLINK5_ERR" }]
    decodeRules :=
      [{  xid := 145
          subcodeName := "RLW_REMAP"
          v1Pattern := "-------------------------------1"
          v2Pattern := "-------------------------------1"
          errorStatus := none
          recoveryAction := "XID_154_EVAL"
          patterns_valid := by decide }] }

private def linkError : XidEvent :=
  { eventId := "e1"
    xid := 145
    gpuUuid := some "GPU-0"
    product := some "B100"
    driverBranch := some 570
    intrInfo := some 1
    errorStatus := some 0 }

private def recoveryLine (eventId : String) (observedAt : Time) (action : DynamicRecoveryAction) : XidEvent :=
  { eventId
    observedAt
    xid := 154
    gpuUuid := some "GPU-0"
    product := some "B100"
    xid154Action := some action }

private def logged (events : List XidEvent) : XidCorrelation := { companionEvents := events }

private def twoLines : List XidEvent := [recoveryLine "e2" 3 .restartBm, recoveryLine "e3" 2 .resetGpu]

private theorem twoLines_top {a : XidEvent}
    (ha : IsTop XidEvent.observedAt (usable154 decodingPolicy linkError twoLines) a) :
    a = recoveryLine "e2" 3 .restartBm := by
  have husable : usable154 decodingPolicy linkError twoLines = twoLines := by decide +kernel
  rw [husable] at ha
  obtain ⟨hmem, htop⟩ := ha
  simp only [twoLines, List.mem_cons, List.not_mem_nil, or_false] at hmem
  rcases hmem with rfl | rfl
  · rfl
  · exact absurd (htop _ List.mem_cons_self) (by decide)

/-- An NVLink 5 error beside two XID 154 lines of different seconds follows the later one in either order. -/
theorem verdict_ignores_order_of_two_lines :
    (twoLines.map XidEvent.eventId).Nodup ∧ SelectionsUntied decodingPolicy 2 linkError (logged twoLines) ∧
      evaluateXid decodingPolicy 2 linkError (logged twoLines.reverse) =
        evaluateXid decodingPolicy 2 linkError (logged twoLines) := by
  have hids : (twoLines.map XidEvent.eventId).Nodup := by decide
  have huntied : SelectionsUntied decodingPolicy 2 linkError (logged twoLines) := by
    refine ⟨⟨?_, ?_⟩, ?_⟩
    · intro _ a b ha hb
      rw [twoLines_top ha, twoLines_top hb]
    · intro item hitem
      rw [consulted_eq_nil (by decide +kernel)] at hitem
      exact absurd hitem List.not_mem_nil
    · intro _ _ hworkflow
      exact absurd hworkflow (by decide +kernel)
  exact ⟨hids, huntied, (verdict_ignores_log_order decodingPolicy 0 linkError (logged twoLines) hids).1 huntied
    twoLines.reverse (List.reverse_perm twoLines)⟩

/-- Two XID 154 lines of one second: the error is answered by a reset or by a reboot, as they happen to be listed. -/
theorem verdict_depends_on_log_order :
    ((logged [recoveryLine "e2" 2 .restartBm, recoveryLine "e3" 2 .resetGpu]).companionEvents.map
        XidEvent.eventId).Nodup ∧
      ¬ ∀ events : List XidEvent, events.Perm [recoveryLine "e2" 2 .restartBm, recoveryLine "e3" 2 .resetGpu] →
        evaluateXid decodingPolicy 8 linkError (logged events) =
          evaluateXid decodingPolicy 8 linkError
            (logged [recoveryLine "e2" 2 .restartBm, recoveryLine "e3" 2 .resetGpu]) := by
  refine ⟨by decide, fun h => ?_⟩
  have hswap := h [recoveryLine "e3" 2 .resetGpu, recoveryLine "e2" 2 .restartBm] (.swap _ _ _)
  exact absurd hswap (by decide +kernel)

end Theorem

end Policy

end GpuFaultRecovery
