import GpuFaultRecovery.ReportTwins

/-!
# Report twins over a run

Whatever the order of ingests and closings, the pairs of a run form a matching as long as every step finds the pairs
around its report stored, and no line that a change already follows joins another change.
-/

namespace GpuFaultRecovery

namespace Policy

/-! ### Finalization of a report -/

section Finalize

variable {orchestrator : Orchestrator} {store : XidStore} {event : XidEvent} {decision : XidDecision}

private theorem XidStore.decision_saveFinalized (store : XidStore) (decision : XidDecision) (incident id : String) :
    (store.saveFinalized decision incident).decision id =
      if id = decision.eventId then
        some { decision with
          incidentId := some incident }
      else store.decision id := by
  unfold XidStore.saveFinalized
  exact XidStore.decision_saveDecision _ _ _ id

private theorem XidStore.incidentOf_saveFinalized (store : XidStore) (decision : XidDecision) (incident id : String) :
    (store.saveFinalized decision incident).incidentOf id =
      if id = decision.eventId then some incident else store.incidentOf id := by
  change List.lookup id ((decision.eventId, incident) :: store.incidents) = _
  rw [List.lookup_cons]
  by_cases h : id = decision.eventId
  · simp [h]
  · rw [if_neg h, beq_false_of_ne h]
    rfl

private theorem joinedDecision_eventId :
    (joinedDecision orchestrator store event decision).eventId = decision.eventId := by
  unfold joinedDecision joinGaugeTwin
  cases orchestrator.fence event decision <;> dsimp only [FenceAnswer.apply] <;> repeat' split
  all_goals rfl

private theorem joinedDecision_join :
    (joinedDecision orchestrator store event decision).correlatedEventId = decision.correlatedEventId ∨
      ∃ twin, joinableTwin store event ((orchestrator.fence event decision).apply decision) = some twin ∧
        (joinedDecision orchestrator store event decision).correlatedEventId = some twin.eventId := by
  unfold joinedDecision joinGaugeTwin
  dsimp only
  split
  · exact .inl (FenceAnswer.apply_link _ decision)
  · cases hjoin : joinableTwin store event ((orchestrator.fence event decision).apply decision) with
    | none => exact .inl (FenceAnswer.apply_link _ decision)
    | some twin => exact .inr ⟨twin, rfl, rfl⟩

private theorem recordFinal_spec (joined : XidDecision) (id : String) :
    (recordFinal orchestrator store event joined).2.decision id =
        (if id = joined.eventId then some (recordFinal orchestrator store event joined).1 else store.decision id) ∧
      ((recordFinal orchestrator store event joined).2.incidentOf id).isSome =
        (decide (id = joined.eventId) || (store.incidentOf id).isSome) := by
  unfold recordFinal
  dsimp only
  rw [XidStore.decision_saveFinalized, XidStore.incidentOf_saveFinalized]
  refine ⟨rfl, ?_⟩
  by_cases h : id = joined.eventId <;> simp [h]

private theorem finalizeXid_eq_recordFinal {fuel : Nat}
    (h : ∀ id, (joinedDecision orchestrator store event decision).correlatedEventId = some id →
      (store.incidentOf id).isSome = true ∨
        ((store.event id).isSome = true ∧ ∀ d, store.decision id = some d → d.pending = true)) :
    finalizeXid orchestrator (fuel + 1) store event decision =
      some (recordFinal orchestrator store event (joinedDecision orchestrator store event decision)) := by
  unfold finalizeXid
  dsimp only
  rw [companionFirst_eq_self h]
  rfl

end Finalize

/-! ### Steps -/

def freeChange (store : XidStore) (event : XidEvent) : Option XidEvent :=
  let candidates := store.candidates event (candidateWindow event 0)
  (pairedReports event candidates store.decision).bind fun paired => reportTwin event candidates paired

/-- A change that already follows a line is the one the line would join, unless the line's choice still waits. -/
def FollowerFirst (reports : List XidEvent) (store : XidStore) (event : XidEvent) : Prop :=
  ∀ x, Paired reports store x event → ∀ twin, freeChange store event = some twin →
    (∃ d, store.decision twin.eventId = some d ∧ d.pending = false) → twin = x

/-- What a step needs of the state before it: the pairs around its report are stored, and at the close of a line the
change that follows it is its first choice. -/
def TwinsVisible (coordinator : XidCoordinator) (reports : List XidEvent) (store : XidStore) : ReportStep → Prop
  | .ingest event _ =>
    PairsStored reports
      (store.saveEvent (prepareXid154 event) ((prepareXid154 event).observedAt -
        coordinator.retainedWindows * coordinator.policy.companionWindow)).1 (prepareXid154 event)
  | .close id _ => ∀ event, store.event id = some event →
    PairsStored reports store event ∧ FollowerFirst reports store event

def FirstReport (reports : List XidEvent) (store : XidStore) : ReportStep → Prop
  | .ingest event _ => prepareXid154 event ∈ reports ∧ store.decision event.eventId = none
  | .close _ _ => True

instance (reports : List XidEvent) (store : XidStore) (a b : XidEvent) : Decidable (Paired reports store a b) :=
  inferInstanceAs (Decidable (_ ∧ _ ∧ _ ∧ _))

instance (reports : List XidEvent) (store : XidStore) (event : XidEvent) :
    Decidable (PairsStored reports store event) :=
  decidable_of_iff (∀ a ∈ reports, ∀ b ∈ reports, Paired reports store a b → a ≠ event → b ≠ event →
      reportTwins event a = true ∨ reportTwins event b = true → a ∈ store.events ∧ b ∈ store.events)
    ⟨fun h a b hpair => h a hpair.1 b hpair.2.1 hpair, fun h a _ b _ hpair => h a b hpair⟩

instance (reports : List XidEvent) (store : XidStore) (event : XidEvent) :
    Decidable (FollowerFirst reports store event) :=
  decidable_of_iff (∀ x ∈ reports, Paired reports store x event → ∀ twin ∈ freeChange store event,
      (∃ d ∈ store.decision twin.eventId, d.pending = false) → twin = x)
    ⟨fun h x hpair => h x hpair.1 hpair, fun h x _ hpair => h x hpair⟩

instance (coordinator : XidCoordinator) (reports : List XidEvent) (store : XidStore) (step : ReportStep) :
    Decidable (TwinsVisible coordinator reports store step) :=
  match step with
  | .ingest _ _ => inferInstanceAs (Decidable (PairsStored _ _ _))
  | .close id _ => inferInstanceAs (Decidable (∀ event ∈ store.event id, _ ∧ _))

instance (reports : List XidEvent) (store : XidStore) (step : ReportStep) :
    Decidable (FirstReport reports store step) :=
  match step with
  | .ingest _ _ => inferInstanceAs (Decidable (_ ∧ _))
  | .close _ _ => isTrue trivial

section Step

variable {coordinator : XidCoordinator} {orchestrator : Orchestrator} {reports : List XidEvent}
  {store current : XidStore} {event twin : XidEvent} {decision : XidDecision}

/-- Two stores agree but for the decision of one report, and for the report itself. -/
structure AgreeOff (store current : XidStore) (event : XidEvent) : Prop where
  events : ∀ x ∈ current.events, x ∈ store.events ∨ x = event
  decisions : ∀ id, id ≠ event.eventId → current.decision id = store.decision id
  incidents : ∀ id, current.incidentOf id = store.incidentOf id

private theorem AgreeOff.refl (store : XidStore) (event : XidEvent) : AgreeOff store store event :=
  ⟨fun _ h => .inl h, fun _ _ => rfl, fun _ => rfl⟩

private theorem AgreeOff.paired_iff (h : AgreeOff store current event) (hreports : ReportsOfOneXid reports)
    (hevent : event ∈ reports) {a b : XidEvent} (hne : a ≠ event) :
    Paired reports current a b ↔ Paired reports store a b := by
  unfold Paired XidStore.link
  constructor <;> rintro ⟨ha, hb, hlink, htwins⟩ <;> refine ⟨ha, hb, ?_, htwins⟩
  · rwa [h.decisions _ fun hid => hne (List.inj_on_of_nodup_map hreports.ids ha hevent hid)] at hlink
  · rwa [h.decisions _ fun hid => hne (List.inj_on_of_nodup_map hreports.ids ha hevent hid)]

private theorem FreeTwin.fits (hfree : FreeTwin reports current event twin) (hagree : AgreeOff store current event)
    (hreports : ReportsOfOneXid reports) (hevent : event ∈ reports)
    (hfollower : ∀ x, x ≠ event → Paired reports store x event → x = twin)
    (hsettled : isKernelLine event = true → ∃ d, current.decision twin.eventId = some d ∧ d.pending = false) :
    Fits reports store event twin := by
  have hid := (reportTwins_spec hfree.twins).1
  have hne : twin ≠ event := ne_of_reportTwins hfree.twins
  refine ⟨(hagree.events twin hfree.stored).resolve_right hne, ?_, hfollower, ?_⟩
  · intro x hx hpair
    refine hfree.free x hx ?_
    rcases hpair with hpair | hpair
    · exact .inl ((hagree.paired_iff hreports hevent hne).2 hpair)
    · exact .inr ((hagree.paired_iff hreports hevent hx).2 hpair)
  · intro hline
    obtain ⟨d, hd, hpending⟩ := hsettled hline
    exact ⟨d, by rw [← hagree.decisions _ hid.symm, hd], hpending⟩

private theorem AgreeOff.trans {middle : XidStore} (h : AgreeOff store middle event)
    (h' : AgreeOff middle current event) :
    AgreeOff store current event where
  events := by
    intro x hx
    rcases h'.events x hx with hx | hx
    · exact h.events x hx
    · exact .inr hx
  decisions := fun id hid => (h'.decisions id hid).trans (h.decisions id hid)
  incidents := fun id => (h'.incidents id).trans (h.incidents id)

private theorem agreeOff_saveDecision (store : XidStore) (event : XidEvent) (decision : XidDecision)
    (h : decision.incidentId.isSome = true → (store.incidents.lookup decision.eventId).isSome = true)
    (hid : decision.eventId = event.eventId) : AgreeOff store (store.saveDecision decision h) event where
  events := fun _ hx => .inl hx
  decisions := by
    intro id hne
    rw [XidStore.decision_saveDecision, hid, if_neg hne]
  incidents := fun _ => rfl

private theorem PairsStored.congr (h : PairsStored reports store event) (hagree : AgreeOff store current event)
    (hevents : current.events = store.events) (hreports : ReportsOfOneXid reports) (hevent : event ∈ reports) :
    PairsStored reports current event := by
  intro a b hpair ha hb htwins
  rw [hevents]
  exact h a b ((hagree.paired_iff hreports hevent ha).1 hpair) ha hb htwins

private theorem FreeTwin.congr (h : FreeTwin reports store event twin) (hagree : AgreeOff store current event)
    (hevents : current.events = store.events) (hreports : ReportsOfOneXid reports) (hevent : event ∈ reports) :
    FreeTwin reports current event twin := by
  have hne : twin ≠ event := ne_of_reportTwins h.twins
  refine ⟨hevents ▸ h.stored, h.twins, fun x hx hpair => h.free x hx ?_⟩
  rcases hpair with hpair | hpair
  · exact .inl ((hagree.paired_iff hreports hevent hne).1 hpair)
  · exact .inr ((hagree.paired_iff hreports hevent hx).1 hpair)

private theorem freeTwin_of_joinableTwin (hreports : ReportsOfOneXid reports)
    (hcurrent : ∀ x ∈ current.events, x ∈ reports)
    (hevent : event ∈ reports) (hpairs : PairsStored reports current event)
    (h : joinableTwin current event decision = some twin) :
    FreeTwin reports current event twin ∧ freeChange current event = some twin ∧
      ∃ d, current.decision twin.eventId = some d ∧ d.pending = false := by
  obtain ⟨_, _, _, ⟨paired, hpaired, htwin⟩, stored, hstored, hpending, _⟩ := joinableTwin_spec h
  refine ⟨?_, ?_, stored, hstored, hpending⟩
  · exact freeTwin_of_reportTwin hreports hcurrent hevent
      (candidateWindow_of_report (hreports.report event hevent)) hpairs hpaired htwin
  · unfold freeChange
    dsimp only
    rw [hpaired, Option.bind_some, htwin]

/-- A settled decision of a report is finalized at once, and the invariant is kept. -/
private theorem finalized_twinsInv (hreports : ReportsOfOneXid reports) (hinv : TwinsInv reports store)
    (hevent : event ∈ reports) (hagree : AgreeOff store current event) (hpairs : PairsStored reports current event)
    (hunsettled : ∀ d, store.decision event.eventId = some d → d.pending = true)
    (hid : decision.eventId = event.eventId)
    (hlink : ∀ id, decision.correlatedEventId = some id →
      ∃ twin, twin.eventId = id ∧ isXidGauge event = true ∧ FreeTwin reports current event twin)
    (hnamer : ∀ x, x ≠ event → Paired reports store x event →
      isKernelLine event = true ∧ ∀ twin, freeChange current event = some twin →
        (∃ d, current.decision twin.eventId = some d ∧ d.pending = false) → x = twin) (fuel : Nat) :
    ∃ answer, finalizeXid orchestrator (fuel + 1) current event decision = some answer ∧
      TwinsInv reports answer.2 := by
  have hcurrent : ∀ x ∈ current.events, x ∈ reports := by
    intro x hx
    rcases hagree.events x hx with hx | rfl
    · exact hinv.stored x hx
    · exact hevent
  -- the link of the final decision leads to a twin that fits, and that needs no finalization of its own
  have hfits : ∀ id, (joinedDecision orchestrator current event decision).correlatedEventId = some id →
      ∃ twin, twin.eventId = id ∧ FreeTwin reports current event twin ∧ Fits reports store event twin := by
    intro id hjoined
    rcases @joinedDecision_join orchestrator current event decision with hsame | ⟨twin, hjoin, htwin⟩
    · rw [hsame] at hjoined
      obtain ⟨twin, htwin, hgauge, hfree⟩ := hlink id hjoined
      have hline := not_kernelLine_of_gauge hgauge
      refine ⟨twin, htwin, hfree, hfree.fits hagree hreports hevent ?_ fun h => ?_⟩
      · intro x hx hpair
        exact absurd (hnamer x hx hpair).1 hline
      · exact absurd h hline
    · obtain ⟨hfree, hchosen, hsettled⟩ := freeTwin_of_joinableTwin hreports hcurrent hevent hpairs hjoin
      rw [htwin] at hjoined
      exact ⟨twin, Option.some.inj hjoined, hfree, hfree.fits hagree hreports hevent
        (fun x hx hpair => (hnamer x hx hpair).2 twin hchosen hsettled) fun _ => hsettled⟩
  have hfinal := @finalizeXid_eq_recordFinal orchestrator current event decision fuel (by
    intro id hjoined
    obtain ⟨twin, rfl, hfree, hfit⟩ := hfits id hjoined
    have hstored : (current.event twin.eventId).isSome = true :=
      List.find?_isSome.2 ⟨twin, hfree.stored, beq_self_eq_true _⟩
    by_cases hincident : (current.incidentOf twin.eventId).isSome = true
    · exact .inl hincident
    · refine .inr ⟨hstored, fun d hd => ?_⟩
      by_contra hsettled
      rw [hagree.decisions _ (reportTwins_spec hfree.twins).1.symm] at hd
      have hlinked := hinv.incident _ d hd (Bool.eq_false_iff.2 hsettled)
      rw [← hagree.incidents] at hlinked
      exact hincident hlinked)
  refine ⟨_, hfinal, ?_⟩
  have hjoinedId : (joinedDecision orchestrator current event decision).eventId = event.eventId :=
    joinedDecision_eventId.trans hid
  refine @twinsInv_update reports store _ event
    (recordFinal orchestrator current event (joinedDecision orchestrator current event decision)).1 hreports
      hinv hevent
    hunsettled hagree.events (fun id => ?_) (fun id hincident => ?_) (fun _ => ?_) fun twin htwin hnames htwins => ?_
  · rw [(recordFinal_spec _ id).1, hjoinedId]
    split
    · rfl
    · exact hagree.decisions id ‹_›
  · rw [(recordFinal_spec _ id).2, hagree.incidents, hincident, Bool.or_true]
  · rw [(recordFinal_spec _ _).2, hjoinedId, decide_eq_true rfl, Bool.true_or]
  · obtain ⟨other, hother, _, hfit⟩ := hfits twin.eventId hnames
    have hmem := hinv.stored other hfit.stored
    rwa [List.inj_on_of_nodup_map hreports.ids hmem htwin hother] at hfit

private theorem evaluate_freeTwin {closed : Bool} (hreports : ReportsOfOneXid reports)
    (hstored : ∀ x ∈ store.events, x ∈ reports) (hevent : event ∈ reports) (hpairs : PairsStored reports store event)
    {id : String} (h : (coordinator.evaluate store event closed).correlatedEventId = some id) :
    ∃ twin, twin.eventId = id ∧ isXidGauge event = true ∧ FreeTwin reports store event twin := by
  rw [evaluate_link hreports hstored hevent] at h
  obtain ⟨twin, htwin, hid⟩ := Option.map_eq_some_iff.1 h
  exact ⟨twin, hid, freeTwin_of_followedTwin hreports hstored hevent hpairs htwin⟩

private theorem saveEvent_spec (store : XidStore) (event : XidEvent) (retainFrom : Time) :
    AgreeOff store (store.saveEvent event retainFrom).1 event ∧
      (store.saveEvent event retainFrom).1.decision event.eventId = store.decision event.eventId := by
  unfold XidStore.saveEvent
  split
  · exact ⟨AgreeOff.refl store event, rfl⟩
  · refine ⟨⟨fun x hx => ?_, fun _ _ => rfl, fun _ => rfl⟩, rfl⟩
    rcases List.mem_append.1 (List.mem_filter.1 hx).1 with hold | hnew
    · exact .inl hold
    · exact .inr (List.mem_singleton.1 hnew)

private theorem prepareXid154_idem (event : XidEvent) :
    prepareXid154 (prepareXid154 event) = prepareXid154 event := by
  unfold prepareXid154
  split <;> rfl

private theorem prepareXid154_eventId (event : XidEvent) : (prepareXid154 event).eventId = event.eventId := by
  unfold prepareXid154
  split <;> rfl

/-- Ingest keeps the invariant: nothing names a report before it is stored. -/
private theorem ingestXid_twinsInv (hreports : ReportsOfOneXid reports) (hinv : TwinsInv reports store)
    (hevent : prepareXid154 event ∈ reports) (hnone : store.decision event.eventId = none)
    (hpairs : PairsStored reports (store.saveEvent (prepareXid154 event) ((prepareXid154 event).observedAt -
      coordinator.retainedWindows * coordinator.policy.companionWindow)).1 (prepareXid154 event)) :
    TwinsInv reports (ingestXid coordinator orchestrator store event) := by
  rw [← prepareXid154_eventId] at hnone
  unfold ingestXid
  dsimp only
  generalize hprepared : prepareXid154 event = report at *
  have hsame : prepareXid154 report = report := by
    rw [← hprepared, prepareXid154_idem]
  obtain ⟨hagree, hdecision⟩ := saveEvent_spec store report
    (report.observedAt - coordinator.retainedWindows * coordinator.policy.companionWindow)
  generalize hsaved : (store.saveEvent report
    (report.observedAt - coordinator.retainedWindows * coordinator.policy.companionWindow)).1 = saved at *
  have hanswer : coordinator.ingest store report = (coordinator.evaluate saved report false,
      saved.saveDecision (coordinator.evaluate saved report false) fun h => by cases h) := by
    unfold XidCoordinator.ingest
    simp only [hsame, hsaved, hdecision, hnone]
  have hstored : ∀ x ∈ saved.events, x ∈ reports := by
    intro x hx
    rcases hagree.events x hx with hx | rfl
    · exact hinv.stored x hx
    · exact hevent
  have hunsettled : ∀ d, store.decision report.eventId = some d → d.pending = true := by
    intro d hd
    rw [hnone] at hd
    cases hd
  have hnamer : ∀ x, ¬ Paired reports store x report := by
    intro x hpair
    have hdecided := hinv.named x report hpair
    rw [hnone] at hdecided
    cases hdecided
  rw [hanswer]
  dsimp only
  split
  case isTrue hpending =>
    refine @twinsInv_update reports store _ report (coordinator.evaluate saved report false) hreports hinv hevent
      hunsettled hagree.events (fun id => ?_) (fun id hincident => ?_) (fun hsettled => ?_)
      fun twin htwin hnames htwins => ?_
    · rw [XidStore.decision_saveDecision, XidCoordinator.evaluate_eventId]
      split
      · rfl
      · exact hagree.decisions id ‹_›
    · exact (congrArg Option.isSome (hagree.incidents id)).trans hincident
    · rw [hpending] at hsettled
      cases hsettled
    · obtain ⟨other, hother, hgauge, hfree⟩ := evaluate_freeTwin hreports hstored hevent hpairs hnames
      have hmem := hstored other hfree.stored
      obtain rfl := List.inj_on_of_nodup_map hreports.ids hmem htwin hother
      exact hfree.fits hagree hreports hevent (fun x _ hpair => absurd hpair (hnamer x)) fun hline =>
        absurd hline (not_kernelLine_of_gauge hgauge)
  case isFalse =>
    have hcurrent :=
      agreeOff_saveDecision saved report (coordinator.evaluate saved report false) (fun h => by cases h) rfl
    obtain ⟨answer, hfinal, hafter⟩ := @finalized_twinsInv orchestrator reports store _ report
      (coordinator.evaluate saved report false) hreports hinv hevent (hagree.trans hcurrent)
      (hpairs.congr hcurrent rfl hreports hevent) hunsettled rfl
      (fun id hid => by
        obtain ⟨twin, htwin, hgauge, hfree⟩ := evaluate_freeTwin hreports hstored hevent hpairs hid
        exact ⟨twin, htwin, hgauge, hfree.congr hcurrent rfl hreports hevent⟩)
      (fun x _ hpair => absurd hpair (hnamer x)) saved.events.length
    rw [show (saved.saveDecision (coordinator.evaluate saved report false) fun h => by cases h).events.length =
      saved.events.length from rfl, hfinal]
    exact hafter

private theorem failClosed_link (decision : XidDecision) :
    (failClosed decision).correlatedEventId = decision.correlatedEventId := by
  unfold failClosed
  split <;> rfl

private theorem failClosed_eventId (decision : XidDecision) : (failClosed decision).eventId = decision.eventId := by
  unfold failClosed
  split <;> rfl

/-- The close of a window keeps the invariant, when the change that follows a line is the line's first choice. -/
private theorem closeXid_twinsInv (hreports : ReportsOfOneXid reports) (hinv : TwinsInv reports store)
    (hmem : event ∈ store.events) (hpending : ∀ d, store.decision event.eventId = some d → d.pending = true)
    (hpairs : PairsStored reports store event) (hfirst : FollowerFirst reports store event) :
    TwinsInv reports (closeXid coordinator orchestrator store event) := by
  have hevent := hinv.stored event hmem
  obtain ⟨answer, hfinal, hafter⟩ := @finalized_twinsInv orchestrator reports store store event
    (failClosed (coordinator.evaluate store event true)) hreports hinv hevent (AgreeOff.refl store event)
      hpairs hpending
    (failClosed_eventId _)
    (fun id hid => evaluate_freeTwin hreports hinv.stored hevent hpairs ((failClosed_link _).symm.trans hid))
    (fun x _ hpair => by
      refine ⟨?_, fun twin htwin hsettled => (hfirst x hpair twin htwin hsettled).symm⟩
      -- a change that waits is named by no line
      rcases (reportTwins_spec hpair.2.2.2).2.2.2 with ⟨hline, _⟩ | ⟨_, hline⟩
      · obtain ⟨d, hd, hsettled⟩ := hinv.joined x event hpair hline
        rw [hpending d hd] at hsettled
        cases hsettled
      · exact hline) store.events.length
  unfold closeXid
  rw [hfinal]
  exact ⟨hafter.matching, hafter.stored, hafter.decided, hafter.incident, hafter.named, hafter.joined⟩

private theorem mem_of_event {id : String} (h : store.event id = some event) :
    event ∈ store.events ∧ event.eventId = id := by
  unfold XidStore.event at h
  exact ⟨List.mem_of_find?_eq_some h, by simpa using List.find?_some h⟩

private theorem reportStep_twinsInv (hreports : ReportsOfOneXid reports) {step : ReportStep}
    (hinv : TwinsInv reports store) (hreport : FirstReport reports store step)
    (hvisible : TwinsVisible coordinator reports store step) :
    TwinsInv reports (reportStep coordinator store step) := by
  cases step with
  | ingest event orchestrator => exact ingestXid_twinsInv hreports hinv hreport.1 hreport.2 hvisible
  | close id orchestrator =>
    unfold reportStep
    dsimp only
    split
    case h_1 event decision hevent hdecision =>
      split
      case isTrue hpending =>
        obtain ⟨hmem, rfl⟩ := mem_of_event hevent
        obtain ⟨hpairs, hfirst⟩ := hvisible event hevent
        refine closeXid_twinsInv hreports hinv hmem (fun d hd => ?_) hpairs hfirst
        rw [hdecision] at hd
        cases hd
        exact hpending
      case isFalse => exact hinv
    case h_2 => exact hinv

end Step

/-! ### Runs -/

section Theorem

variable (coordinator : XidCoordinator) {reports : List XidEvent}

private theorem twinsInv_empty (reports : List XidEvent) : TwinsInv reports {} where
  matching := by
    rintro a b c (⟨_, _, hlink, _⟩ | ⟨_, _, hlink, _⟩) <;> cases hlink
  stored := fun x hx => absurd hx List.not_mem_nil
  decided := fun x hx => absurd hx List.not_mem_nil
  incident := fun id d hd => by cases hd
  named := fun a b hpair => by cases hpair.2.2.1
  joined := fun a b hpair => by cases hpair.2.2.1

/-- In every run of ingests and closings whose steps find the pairs around their report stored, and close no line
whose follower is not its first choice, the pairs are a matching in every state reached. -/
theorem twins_form_matching (hreports : ReportsOfOneXid reports) (steps : List ReportStep)
    (hreport : Run.Along (reportStep coordinator) (FirstReport reports) {} steps)
    (hvisible : Run.Along (reportStep coordinator) (TwinsVisible coordinator reports) {} steps)
    (taken rest : List ReportStep) (hsplit : steps = taken ++ rest) :
    Matching (Paired reports (Run.exec (reportStep coordinator) {} taken)) := by
  subst hsplit
  have hboth := (hreport.and hvisible).split.1
  have hinv := Run.invariant_exec (I := TwinsInv reports)
    (fun store step hinv h => reportStep_twinsInv hreports hinv h.1 h.2) (twinsInv_empty reports) hboth
  exact hinv.matching

private def reportOf (eventId source : String) (observedAt : Time) : XidEvent :=
  { eventId
    xid := 45
    observedAt
    eventSource := some source
    gpuUuid := some "GPU-0"
    product := some "H100" }

private def lineOf45 : XidEvent := reportOf "line" kernelXidSource 0

private def nearChange : XidEvent := reportOf "near" dcgmXidGaugeSource 10

private def farChange : XidEvent := reportOf "far" dcgmXidGaugeSource 100

private def reportsOf45 : List XidEvent := [lineOf45, nearChange, farChange]

private theorem reportsOf45_one : ReportsOfOneXid reportsOf45 where
  ids := by decide
  report := by decide
  xid := by decide
  cluster := by decide
  node := by decide
  gpu := by decide

private theorem two_le_eight : 2 ≤ 8 := by decide

private def catalogCoordinator : XidCoordinator :=
  { policy := catalog610
    retained := two_le_eight }

private def newIncidents : Orchestrator where
  fence := fun _ _ => .unchanged
  associated := fun _ _ _ => false
  incident := fun _ event _ => event.eventId

private def lineFirst : List ReportStep :=
  [.ingest lineOf45 newIncidents, .ingest nearChange newIncidents, .close "near" newIncidents,
    .close "line" newIncidents, .ingest farChange newIncidents, .close "far" newIncidents]

/-- A line, the change that follows it, and a later change that stays alone. -/
theorem line_first_twins_form_matching :
    Run.Along (reportStep catalogCoordinator) (FirstReport reportsOf45) {} lineFirst ∧
      Run.Along (reportStep catalogCoordinator) (TwinsVisible catalogCoordinator reportsOf45) {} lineFirst ∧
      Paired reportsOf45 (Run.exec (reportStep catalogCoordinator) {} lineFirst) nearChange lineOf45 ∧
      Matching (Paired reportsOf45 (Run.exec (reportStep catalogCoordinator) {} lineFirst)) := by
  have hreport : Run.Along (reportStep catalogCoordinator) (FirstReport reportsOf45) {} lineFirst := by decide +kernel
  have hvisible :
      Run.Along (reportStep catalogCoordinator) (TwinsVisible catalogCoordinator reportsOf45) {} lineFirst := by
    decide +kernel
  exact ⟨hreport, hvisible, by decide +kernel,
    twins_form_matching catalogCoordinator reportsOf45_one lineFirst hreport hvisible lineFirst [] rfl⟩

private def lineBetween : List ReportStep :=
  [.ingest nearChange newIncidents, .ingest lineOf45 newIncidents, .ingest farChange newIncidents,
    .close "near" newIncidents, .close "line" newIncidents]

/-- A later change follows a line that waits, the earlier change is settled alone, and at its close the line joins the
earlier one: it is in two pairs. -/
theorem line_joins_second_change :
    ReportsOfOneXid reportsOf45 ∧
      Run.Along (reportStep catalogCoordinator) (FirstReport reportsOf45) {} lineBetween ∧
      Paired reportsOf45 (Run.exec (reportStep catalogCoordinator) {} lineBetween) farChange lineOf45 ∧
      Paired reportsOf45 (Run.exec (reportStep catalogCoordinator) {} lineBetween) lineOf45 nearChange ∧
      ¬ Matching (Paired reportsOf45 (Run.exec (reportStep catalogCoordinator) {} lineBetween)) := by
  have hfar : Paired reportsOf45 (Run.exec (reportStep catalogCoordinator) {} lineBetween) farChange lineOf45 := by
    decide +kernel
  have hnear : Paired reportsOf45 (Run.exec (reportStep catalogCoordinator) {} lineBetween) lineOf45 nearChange := by
    decide +kernel
  refine ⟨reportsOf45_one, by decide +kernel, hfar, hnear, fun h => ?_⟩
  have hsame := h lineOf45 farChange nearChange (.inr hfar) (.inl hnear)
  exact absurd (congrArg XidEvent.eventId hsame) (by decide)

end Theorem

end Policy

end GpuFaultRecovery
