import GpuFaultRecovery.XidEngine

/-!
# The pinned catalog

The resolution of an event consults companions for XID 45 and XID 48 only, and those of XID 48 are XID 63 and XID 64.
The catalog says so by where its workflows stand, and this bounds the depth of every resolution.
-/

namespace GpuFaultRecovery

namespace Policy

/-- A catalog in which each correlating workflow stands at its own XID. -/
structure PinnedPolicy extends XidPolicy where
  workflow45 : ∀ rule ∈ catalogRules, rule.immediateAction = some "WORKFLOW_XID_45" → rule.xid = 45
  workflow48 : ∀ rule ∈ catalogRules, rule.immediateAction = some "WORKFLOW_XID_48" → rule.xid = 48
  workflow154 : ∀ rule ∈ catalogRules, rule.immediateAction = some "XID_154" → rule.xid = 154
  rule48 : ∃ rule, toXidPolicy.rule 48 = some rule ∧ rule.immediateAction = some "WORKFLOW_XID_48"
  rule64 : ∃ rule, toXidPolicy.rule 64 = some rule ∧ rule.immediateAction = some "RESET_GPU"

/-- The rules of the catalog for the XIDs that correlate. -/
def correlatingRules : List CatalogRule :=
  let products := ["A100", "H100", "B100", "GB200"]
  [{ xid := 45, products, immediateAction := some "WORKFLOW_XID_45" },
    { xid := 48, products, immediateAction := some "WORKFLOW_XID_48", investigatoryAction := some "WORKFLOW_XID_48" },
    { xid := 63, products, immediateAction := some "IGNORE", investigatoryAction := some "IGNORE" },
    { xid := 64, products, immediateAction := some "RESET_GPU", investigatoryAction := some "CONTACT_SUPPORT" },
    { xid := 154, products, immediateAction := some "XID_154" }]

def catalog610 : PinnedPolicy where
  companionWindow := 30
  catalogRules := correlatingRules
  workflow45 := by decide
  workflow48 := by decide
  workflow154 := by decide
  rule48 := ⟨_, rfl, rfl⟩
  rule64 := ⟨_, rfl, rfl⟩

/-! ### Deeper resolutions -/

section Depth

variable {policy : XidPolicy} {resolve resolve' : Resolver}

private theorem resolvedCompanions_mono (h : ∀ followTwin event correlation resolution,
      resolve followTwin event correlation = some resolution →
        resolve' followTwin event correlation = some resolution)
    {companions candidates : List XidEvent} {resolved : List (XidEvent × Resolution)}
    (hresolved : resolvedCompanions resolve companions candidates = some resolved) :
    resolvedCompanions resolve' companions candidates = some resolved := by
  induction companions generalizing resolved with
  | nil => exact hresolved
  | cons item companions ih =>
    unfold resolvedCompanions at hresolved ih ⊢
    simp only [List.mapM_cons, Option.bind_eq_bind, Option.bind_eq_some_iff, Option.map_eq_some_iff, Option.pure_def,
      Option.some.injEq] at hresolved ⊢
    obtain ⟨_, ⟨resolution, hitem, rfl⟩, rest, hrest, rfl⟩ := hresolved
    exact ⟨_, ⟨resolution, h _ _ _ _ hitem, rfl⟩, rest, ih hrest, rfl⟩

private theorem resolveByCatalog_mono (h : ∀ followTwin event correlation resolution,
      resolve followTwin event correlation = some resolution →
        resolve' followTwin event correlation = some resolution)
    {event : XidEvent} {correlation : XidCorrelation} {resolution : Resolution}
    (hresolution : resolveByCatalog policy resolve event correlation = some resolution) :
    resolveByCatalog policy resolve' event correlation = some resolution := by
  rcases resolveByCatalog_cases policy event with ⟨_, _, hfixed⟩ | ⟨rule, official, _, _, hcases⟩
  · rw [hfixed] at hresolution ⊢
    exact hresolution
  rcases hcases with ⟨action, _, hdirect⟩ | ⟨_, h154⟩ | ⟨_, h45⟩ | ⟨_, h48⟩ | ⟨_, h5⟩
  · rw [hdirect] at hresolution ⊢
    exact hresolution
  · rw [h154] at hresolution ⊢
    exact hresolution
  · rw [h45] at hresolution ⊢
    unfold workflowXid45 at hresolution ⊢
    split at hresolution
    case isTrue hopen => rwa [if_pos hopen]
    case isFalse hclosed =>
      rw [if_neg hclosed]
      obtain ⟨resolved, hresolved, hlast⟩ := Option.map_eq_some_iff.1 hresolution
      exact Option.map_eq_some_iff.2 ⟨resolved, resolvedCompanions_mono h hresolved, hlast⟩
  · rw [h48] at hresolution ⊢
    unfold workflowXid48 at hresolution ⊢
    dsimp only at hresolution ⊢
    split at hresolution
    case isTrue hsolo => rwa [if_pos hsolo]
    case isFalse hcompanions =>
      rw [if_neg hcompanions]
      obtain ⟨resolved, hresolved, hlast⟩ := Option.map_eq_some_iff.1 hresolution
      exact Option.map_eq_some_iff.2 ⟨resolved, resolvedCompanions_mono h hresolved, hlast⟩
  · rw [h5] at hresolution ⊢
    exact hresolution

/-- A resolution found at some depth is found at every greater one. -/
private theorem resolveXid_succ (fuel : Nat) : ∀ followTwin event correlation resolution,
    resolveXid policy fuel followTwin event correlation = some resolution →
      resolveXid policy (fuel + 1) followTwin event correlation = some resolution := by
  induction fuel with
  | zero => exact fun _ _ _ _ h => by cases h
  | succ fuel ih =>
    intro followTwin event correlation resolution h
    rw [resolveXid] at h ⊢
    unfold resolveStep at h ⊢
    cases hfollow : if followTwin then followedTwin event correlation else none with
    | some twin =>
      rw [hfollow] at h
      obtain ⟨own, hown, hlast⟩ := Option.map_eq_some_iff.1 h
      exact Option.map_eq_some_iff.2 ⟨own, ih _ _ _ _ hown, hlast⟩
    | none =>
      rw [hfollow] at h
      dsimp only at h ⊢
      cases hwait : if followTwin then waitsForLine policy event correlation else none with
      | some waiting =>
        rw [hwait] at h
        exact h
      | none =>
        rw [hwait] at h
        exact resolveByCatalog_mono ih h

private theorem resolveXid_mono {fuel fuel' : Nat} (hle : fuel ≤ fuel') {followTwin : Bool} {event : XidEvent}
    {correlation : XidCorrelation} {resolution : Resolution}
    (h : resolveXid policy fuel followTwin event correlation = some resolution) :
    resolveXid policy fuel' followTwin event correlation = some resolution := by
  induction hle with
  | refl => exact h
  | step _ ih => exact resolveXid_succ _ _ _ _ _ ih

private theorem exists_resolvedCompanions {companions candidates : List XidEvent}
    (h : ∀ item ∈ companions, (resolve true item { companionEvents := candidates }).isSome) :
    ∃ resolved, resolvedCompanions resolve companions candidates = some resolved := by
  induction companions with
  | nil => exact ⟨[], rfl⟩
  | cons item companions ih =>
    obtain ⟨resolution, hitem⟩ := Option.isSome_iff_exists.1 (h item List.mem_cons_self)
    obtain ⟨rest, hrest⟩ := ih fun other hother => h other (List.mem_cons_of_mem item hother)
    refine ⟨(item, resolution) :: rest, ?_⟩
    unfold resolvedCompanions at hrest ⊢
    rw [List.mapM_cons, hitem, hrest]
    rfl

/-- The catalog resolves an event as soon as the companions it consults are resolved. -/
private theorem resolveByCatalog_isSome {event : XidEvent} {correlation : XidCorrelation}
    (h : ∀ item ∈ consulted policy event correlation,
      (resolve true item { companionEvents := correlation.companionEvents }).isSome) :
    (resolveByCatalog policy resolve event correlation).isSome := by
  rcases resolveByCatalog_cases policy event with ⟨_, _, hfixed⟩ | ⟨rule, official, _, hworkflow, hcases⟩
  · rw [hfixed]
    rfl
  rcases hcases with ⟨action, _, hdirect⟩ | ⟨_, h154⟩ | ⟨rfl, h45⟩ | ⟨rfl, h48⟩ | ⟨_, h5⟩
  · rw [hdirect]
    rfl
  · rw [h154]
    rfl
  · rw [h45]
    unfold workflowXid45
    dsimp only
    split
    case isTrue => rfl
    case isFalse hclosed =>
      have hconsulted : consulted policy event correlation =
          findRelated policy event (· != 45) correlation.companionEvents := by
        simp only [Bool.not_eq_true', Bool.not_eq_false] at hclosed
        simp [consulted, hworkflow, hclosed]
      obtain ⟨resolved, hresolved⟩ := exists_resolvedCompanions fun item hitem => h item (hconsulted ▸ hitem)
      rw [hresolved]
      rfl
  · rw [h48]
    unfold workflowXid48
    dsimp only
    split
    case isTrue => rfl
    case isFalse =>
      have hconsulted : consulted policy event correlation =
          findRelated policy event (fun xid => xid == 63 || xid == 64) correlation.companionEvents := by
        simp [consulted, hworkflow]
      obtain ⟨resolved, hresolved⟩ := exists_resolvedCompanions fun item hitem => h item (hconsulted ▸ hitem)
      rw [hresolved]
      rfl
  · rw [h5]
    rfl

end Depth

/-! ### The depth of a resolution -/

namespace PinnedPolicy

variable (policy : PinnedPolicy) (event : XidEvent) (correlation : XidCorrelation)

variable {event} in
private theorem exists_rule_of_workflowOf {official : String}
    (h : workflowOf policy.toXidPolicy event = some official) :
    ∃ rule ∈ policy.catalogRules, rule.xid = event.xid ∧ rule.immediateAction = some official := by
  obtain ⟨rule, hrule, himmediate, _⟩ := rule_of_workflowOf h
  unfold XidPolicy.rule at hrule
  have hxid := List.find?_some hrule
  exact ⟨rule, List.mem_of_find?_eq_some hrule, by simpa using hxid, himmediate⟩

variable {event} in
private theorem xid_of_workflow45 (h : workflowOf policy.toXidPolicy event = some "WORKFLOW_XID_45") :
    event.xid = 45 := by
  obtain ⟨rule, hmem, hxid, himmediate⟩ := policy.exists_rule_of_workflowOf h
  rw [← hxid, policy.workflow45 rule hmem himmediate]

variable {event} in
private theorem xid_of_workflow48 (h : workflowOf policy.toXidPolicy event = some "WORKFLOW_XID_48") :
    event.xid = 48 := by
  obtain ⟨rule, hmem, hxid, himmediate⟩ := policy.exists_rule_of_workflowOf h
  rw [← hxid, policy.workflow48 rule hmem himmediate]

variable {event} in
private theorem xid_of_workflow154 (h : workflowOf policy.toXidPolicy event = some "XID_154") : event.xid = 154 := by
  obtain ⟨rule, hmem, hxid, himmediate⟩ := policy.exists_rule_of_workflowOf h
  rw [← hxid, policy.workflow154 rule hmem himmediate]

variable {event correlation} in
private theorem consulted_cases {item : XidEvent} (h : item ∈ consulted policy.toXidPolicy event correlation) :
    (event.xid = 45 ∧ item.xid ≠ 45) ∨ (event.xid = 48 ∧ (item.xid = 63 ∨ item.xid = 64)) := by
  unfold consulted at h
  split at h
  case isTrue h45 =>
    split at h
    · exact .inl ⟨policy.xid_of_workflow45 h45, bne_iff_ne.1 (xid_of_findRelated h)⟩
    · exact absurd h List.not_mem_nil
  case isFalse =>
    split at h
    case isTrue h48 =>
      have hxid := xid_of_findRelated h
      exact .inr ⟨policy.xid_of_workflow48 h48, by simpa using hxid⟩
    case isFalse => exact absurd h List.not_mem_nil

/-- Where the consulted companions are resolved at one depth, events are resolved two deeper. -/
private theorem isSome_two_deeper {fuel : Nat} {p : Nat → Prop}
    (h : ∀ event correlation, p event.xid → ∀ item ∈ consulted policy.toXidPolicy event correlation,
      (resolveXid policy.toXidPolicy fuel true item { companionEvents := correlation.companionEvents }).isSome)
    {event : XidEvent} (hp : p event.xid) (correlation : XidCorrelation) :
    (resolveXid policy.toXidPolicy (fuel + 1) false event correlation).isSome ∧
      (resolveXid policy.toXidPolicy (fuel + 2) true event correlation).isSome := by
  have hown : ∀ event correlation, p event.xid →
      (resolveXid policy.toXidPolicy (fuel + 1) false event correlation).isSome := by
    intro event correlation hp
    rw [resolveXid]
    unfold resolveStep
    simp only [Bool.false_eq_true, if_false]
    exact resolveByCatalog_isSome (h event correlation hp)
  refine ⟨hown event correlation hp, ?_⟩
  rw [resolveXid]
  unfold resolveStep
  cases hfollow : if true then followedTwin event correlation else none with
  | some twin =>
    rw [if_pos rfl] at hfollow
    have hxid : p twin.xid := (xid_of_followedTwin hfollow).symm ▸ hp
    rw [Option.isSome_map]
    exact hown twin correlation.forTwin hxid
  | none =>
    dsimp only
    cases if true then waitsForLine policy.toXidPolicy event correlation else none with
    | some waiting => rfl
    | none =>
      refine resolveByCatalog_isSome fun item hitem => ?_
      obtain ⟨resolution, hresolution⟩ := Option.isSome_iff_exists.1 (h event correlation hp item hitem)
      rw [resolveXid_succ fuel _ _ _ _ hresolution]
      rfl

/-- Depth six is enough for every event: a change and its line, a companion and its line, and once more for XID 48. -/
private theorem resolveXid_isSome :
    (resolveXid policy.toXidPolicy 5 false event correlation).isSome ∧
      (resolveXid policy.toXidPolicy 6 true event correlation).isSome := by
  have hother : ∀ (event : XidEvent) (correlation : XidCorrelation), event.xid ≠ 45 ∧ event.xid ≠ 48 →
      (resolveXid policy.toXidPolicy 2 true event correlation).isSome := by
    intro event correlation hxid
    refine (policy.isSome_two_deeper (p := fun xid => xid ≠ 45 ∧ xid ≠ 48) ?_ hxid correlation).2
    intro event correlation hxid item hitem
    rcases policy.consulted_cases hitem with ⟨h, _⟩ | ⟨h, _⟩
    · exact absurd h hxid.1
    · exact absurd h hxid.2
  have h48 : ∀ (event : XidEvent) (correlation : XidCorrelation), event.xid ≠ 45 →
      (resolveXid policy.toXidPolicy 4 true event correlation).isSome := by
    intro event correlation hxid
    refine (policy.isSome_two_deeper (p := fun xid => xid ≠ 45) ?_ hxid correlation).2
    intro event correlation hxid item hitem
    rcases policy.consulted_cases hitem with ⟨h, _⟩ | ⟨_, h | h⟩
    · exact absurd h hxid
    · exact hother item _ (by omega)
    · exact hother item _ (by omega)
  refine policy.isSome_two_deeper (p := fun _ => True) ?_ trivial correlation
  intro event correlation _ item hitem
  rcases policy.consulted_cases hitem with ⟨_, h⟩ | ⟨_, h⟩
  · exact h48 item _ h
  · exact h48 item _ (by omega)

/-- `_resolve_xid` for the pinned catalog. -/
def resolve : Resolution :=
  (resolveXid policy.toXidPolicy 6 true event correlation).get (policy.resolveXid_isSome event correlation).2

/-- `_resolve_xid` without following a twin. -/
def resolveOwn : Resolution :=
  (resolveXid policy.toXidPolicy 5 false event correlation).get (policy.resolveXid_isSome event correlation).1

theorem resolveXid_eq_resolve {fuel : Nat} (h : 6 ≤ fuel) :
    resolveXid policy.toXidPolicy fuel true event correlation = some (policy.resolve event correlation) :=
  resolveXid_mono h (Option.some_get _).symm

private theorem resolveXid_eq_resolveOwn {fuel : Nat} (h : 5 ≤ fuel) :
    resolveXid policy.toXidPolicy fuel false event correlation = some (policy.resolveOwn event correlation) :=
  resolveXid_mono h (Option.some_get _).symm

/-- An event follows its twin, waits for it, or is decided by its own rule. -/
theorem resolve_cases :
    (∃ twin, followedTwin event correlation = some twin ∧ policy.resolve event correlation =
      { policy.resolveOwn twin correlation.forTwin with correlatedEventId := some twin.eventId }) ∨
    (followedTwin event correlation = none ∧ ∃ waiting,
      waitsForLine policy.toXidPolicy event correlation = some waiting ∧ policy.resolve event correlation = waiting) ∨
    (followedTwin event correlation = none ∧ waitsForLine policy.toXidPolicy event correlation = none ∧
      policy.resolve event correlation = policy.resolveOwn event correlation) := by
  have hstep := policy.resolveXid_eq_resolve event correlation (show 6 ≤ 6 + 1 by omega)
  rw [resolveXid] at hstep
  unfold resolveStep at hstep
  rw [if_pos rfl, if_pos rfl] at hstep
  cases hfollow : followedTwin event correlation with
  | some twin =>
    rw [hfollow] at hstep
    dsimp only at hstep
    rw [policy.resolveXid_eq_resolveOwn twin _ (show 5 ≤ 6 by omega)] at hstep
    exact .inl ⟨twin, rfl, (Option.some.inj hstep).symm⟩
  | none =>
    rw [hfollow] at hstep
    dsimp only at hstep
    cases hwait : waitsForLine policy.toXidPolicy event correlation with
    | some waiting =>
      rw [hwait] at hstep
      exact .inr (.inl ⟨rfl, waiting, rfl, (Option.some.inj hstep).symm⟩)
    | none =>
      rw [hwait] at hstep
      refine .inr (.inr ⟨rfl, rfl, ?_⟩)
      have hown := policy.resolveXid_eq_resolveOwn event correlation (show 5 ≤ 6 + 1 by omega)
      rw [resolveXid] at hown
      exact Option.some.inj (hstep.symm.trans hown)

theorem resolveOwn_eq :
    resolveByCatalog policy.toXidPolicy (resolveXid policy.toXidPolicy 6) event correlation =
      some (policy.resolveOwn event correlation) := by
  have hown := policy.resolveXid_eq_resolveOwn event correlation (show 5 ≤ 6 + 1 by omega)
  rw [resolveXid] at hown
  exact hown

variable {event correlation} in
/-- What an event names by its own rule: XID 64 an XID 48, XID 48 an XID 63 or 64, XID 45 and XID 154 another XID. -/
theorem resolveOwn_link {id : String} (h : (policy.resolveOwn event correlation).correlatedEventId = some id) :
    ∃ item xids, item ∈ findRelated policy.toXidPolicy event xids correlation.companionEvents ∧ item.eventId = id ∧
      ((event.xid = 64 ∧ item.xid = 48) ∨ (event.xid = 48 ∧ (item.xid = 63 ∨ item.xid = 64)) ∨
        (event.xid = 45 ∧ item.xid ≠ 45) ∨ (event.xid = 154 ∧ item.xid ≠ 154)) := by
  have heq := policy.resolveOwn_eq event correlation
  rcases resolveByCatalog_cases policy.toXidPolicy event with
    ⟨resolution, hnone, hfixed⟩ | ⟨rule, official, hrule, hworkflow, hcases⟩
  · rw [hfixed] at heq
    rw [← Option.some.inj heq, hnone] at h
    cases h
  rcases hcases with ⟨action, _, hdirect⟩ | ⟨rfl, h154⟩ | ⟨rfl, h45⟩ | ⟨rfl, h48⟩ | ⟨_, h5⟩
  · rw [hdirect] at heq
    rw [← Option.some.inj heq] at h
    obtain ⟨hxid, item, hmem, hid⟩ := withXid48Backlink_link (directResolution_link _ _ _ _ _) h
    have h48 : item.xid = 48 := by simpa using xid_of_findRelated hmem
    exact ⟨item, _, hmem, hid, .inl ⟨hxid, h48⟩⟩
  · rw [h154] at heq
    rw [← Option.some.inj heq] at h
    obtain ⟨item, hmem, hid⟩ := workflowXid154_link h
    have hxid : item.xid ≠ 154 := by simpa using xid_of_findRelated hmem
    exact ⟨item, _, hmem, hid, .inr (.inr (.inr ⟨policy.xid_of_workflow154 hworkflow, hxid⟩))⟩
  · rw [h45] at heq
    obtain ⟨item, hmem, hid⟩ := workflowXid45_link heq h
    have hxid : item.xid ≠ 45 := by simpa using xid_of_findRelated hmem
    exact ⟨item, _, hmem, hid, .inr (.inr (.inl ⟨policy.xid_of_workflow45 hworkflow, hxid⟩))⟩
  · rw [h48] at heq
    obtain ⟨item, hmem, hid⟩ := workflowXid48_link heq h
    have hxid : item.xid = 63 ∨ item.xid = 64 := by simpa using xid_of_findRelated hmem
    exact ⟨item, _, hmem, hid, .inr (.inl ⟨policy.xid_of_workflow48 hworkflow, hxid⟩)⟩
  · rw [h5] at heq
    rw [← Option.some.inj heq, workflowNvlink5_link] at h
    cases h

end PinnedPolicy

end Policy

end GpuFaultRecovery
