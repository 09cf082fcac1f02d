import AtlasErp.Ads.Spend

/-! # What a campaign spends, under concurrency

The counter of a campaign is locked by whoever moves it.  The flag of an event is not locked by whoever
reads it, so a correction may find the event already corrected.

- `AdsRelies`: what a transaction in progress relies on;
- `spendExact_of_reachable`: the spend is exact as long as every correction finds the event as it read it;
- `spendExact_counterexample`: two corrections that both read the event as billable. -/

namespace AtlasErp

open Lib

section Locks

/-- The campaign and the cost that an entry reserved. -/
def AdsWrite.reservation : AdsWrite → Option (Nat × Nat)
  | .record event .. => if event.isBillable then some (event.campaignId, event.costMicros) else none
  | .correct c => if c.nextIsBillable then some (c.event.campaignId, c.event.costMicros) else none
  | .invoice .. => none

/-- The campaign whose counter an entry moves, and by how much. -/
def AdsWrite.counted : AdsWrite → Option (Nat × Nat)
  | .record event .. => if event.isBillable then some (event.campaignId, event.costMicros) else none
  | .correct c => some (c.event.campaignId, c.event.costMicros)
  | .invoice .. => none

/-- The budget allows what an entry reserved. -/
def WithinBudget (w : AdsWrite) (db : AdsDb) : Prop :=
  ∀ r ∈ w.reservation, db.budgetAllows r.1 r.2 = true

/-- The reservation of a stage whose entry is still to be written. -/
def AdsStage.reservation : AdsStage → Option (Nat × Nat)
  | .budgeted t true _ _ => some (t.decision.campaignId, t.costMicros)
  | .budgetReserved c => some (c.event.campaignId, c.event.costMicros)
  | .flagWritten c | .budgetReleased c =>
    if c.nextIsBillable then some (c.event.campaignId, c.event.costMicros) else none
  | _ => none

/-- The counter that a stage already locked. -/
def AdsStage.counted : AdsStage → Option (Nat × Nat)
  | .budgetReleased c => some (c.event.campaignId, c.event.costMicros)
  | stage => stage.reservation

/-- The correction that a stage is about. -/
def AdsStage.correction : AdsStage → Option Correction
  | .eventRead c => some c
  | .budgetReserved c => some c
  | .flagWritten c => some c
  | .budgetReleased c => some c
  | _ => none

/-- The stages of a correction before its entry. -/
def AdsStage.corrects : AdsStage → Bool
  | .correcting .. | .eventRead _ | .budgetReserved _ | .flagWritten _ | .budgetReleased _ => true
  | _ => false

/-- The counter is locked, or there is nothing to move. -/
def CounterHeld (held : List AdsLock) (r : Nat × Nat) : Prop := r.2 ≠ 0 → .campaign r.1 ∈ held

variable (config : AdsConfig)

/-- What a transaction in progress relies on. -/
structure AdsRelies (p : AdsPoint) (s : AdsDb) : Prop where
  fits : (adsScript config).Fits WithinBudget p.journal s
  allows : ∀ r ∈ p.stage.reservation, ((adsScript config).replay p.journal s).budgetAllows r.1 r.2 = true
  held : ∀ r ∈ p.stage.counted, CounterHeld p.held r
  journalHeld : ∀ w ∈ p.journal, ∀ r ∈ w.counted, CounterHeld p.held r
  /-- A correction changes the flag it read. -/
  changes : ∀ c ∈ p.stage.correction, c.event.isBillable ≠ c.nextIsBillable
  first : p.stage.corrects = true → p.journal = []
  alone : ∀ c, .correct c ∈ p.journal →
    p.stage = .finished ∧ p.journal = [.correct c] ∧ c.event.isBillable ≠ c.nextIsBillable

/-- What a holder of a lock relies on: the row of the campaign. -/
def keepsCampaign : AdsLock → AdsDb → AdsDb → Prop
  | .campaign id, s, s' => s.campaigns.find? id = s'.campaigns.find? id
  | _, _, _ => True

variable {config}

/-! ## The rows of campaigns -/

/-- What a reservation makes of the row of a campaign. -/
def AdCampaign.reserve (campaignId amountMicros : Nat) (c : AdCampaign) : AdCampaign :=
  if c.id = campaignId then c.spent amountMicros else c

/-- What a release makes of the row of a campaign. -/
def AdCampaign.release (campaignId amountMicros : Nat) (c : AdCampaign) : AdCampaign :=
  if c.id = campaignId ∧ amountMicros ≠ 0 then
    { c with spendTotalMicros := max (c.spendTotalMicros - amountMicros) 0 }
  else c

theorem find?_reserve (db : AdsDb) (campaignId amountMicros id : Nat) :
    (db.reserveCampaignBudget campaignId amountMicros).campaigns.find? id =
      (db.campaigns.find? id).map (AdCampaign.reserve campaignId amountMicros) := by
  refine (Table.find?_updateWhere_map (f := AdCampaign.spent amountMicros) (fun _ => rfl) id).trans ?_
  refine congrArg (fun f => (db.campaigns.find? id).map f) (funext fun c => ?_)
  simp [AdCampaign.reserve]

theorem find?_release (db : AdsDb) (campaignId amountMicros id : Nat) :
    (db.releaseCampaignBudget campaignId amountMicros).campaigns.find? id =
      (db.campaigns.find? id).map (AdCampaign.release campaignId amountMicros) := by
  unfold AdsDb.releaseCampaignBudget
  by_cases hzero : amountMicros = 0
  · have hid : AdCampaign.release campaignId amountMicros = (fun c => c) :=
      funext fun c => if_neg fun hand => hand.2 hzero
    rw [if_pos hzero, hid, Option.map_id']
  · rw [if_neg hzero]
    refine (Table.find?_updateWhere_map (f := fun c : AdCampaign =>
      { c with spendTotalMicros := max (c.spendTotalMicros - amountMicros) 0 }) (fun _ => rfl) id).trans ?_
    refine congrArg (fun f => (db.campaigns.find? id).map f) (funext fun c => ?_)
    simp [AdCampaign.release, hzero]

/-- What an entry makes of the row of a campaign. -/
def AdsWrite.spends : AdsWrite → AdCampaign → AdCampaign
  | .record event .. => if event.isBillable then .reserve event.campaignId event.costMicros else id
  | .correct c =>
    if c.nextIsBillable then .reserve c.event.campaignId c.event.costMicros
    else .release c.event.campaignId c.event.costMicros
  | .invoice .. => id

theorem find?_campaigns_apply (w : AdsWrite) (s : AdsDb) (id : Nat) :
    ((adsScript config).apply w s).campaigns.find? id = (s.campaigns.find? id).map w.spends := by
  cases w with
  | record event currency reason occurredAt =>
    simp only [adsScript, AdsWrite.apply, AdsDb.recordEvent, AdsWrite.spends]
    split
    · exact find?_reserve _ event.campaignId event.costMicros id
    · simp
  | correct c =>
    simp only [adsScript, AdsWrite.apply, AdsDb.correctEvent, AdsWrite.spends]
    split
    · exact find?_reserve _ c.event.campaignId c.event.costMicros id
    · exact find?_release _ c.event.campaignId c.event.costMicros id
  | invoice draft charges => simp [adsScript, AdsWrite.apply, AdsDb.recordInvoice, AdsWrite.spends]

theorem AdCampaign.reserve_eq_self {c : AdCampaign} {campaignId amountMicros : Nat}
    (h : campaignId = c.id → amountMicros = 0) : c.reserve campaignId amountMicros = c := by
  unfold AdCampaign.reserve
  split
  · rename_i hid
    simp [AdCampaign.spent, h hid.symm]
  · rfl

theorem AdCampaign.release_eq_self {c : AdCampaign} {campaignId amountMicros : Nat}
    (h : campaignId = c.id → amountMicros = 0) : c.release campaignId amountMicros = c :=
  if_neg fun hand => hand.2 (h hand.1.symm)

/-- A campaign that an entry does not count in stays as it was. -/
theorem spends_eq_self {w : AdsWrite} {c : AdCampaign} (h : ∀ r ∈ w.counted, r.1 = c.id → r.2 = 0) :
    w.spends c = c := by
  cases w with
  | record event currency reason occurredAt =>
    simp only [AdsWrite.spends]
    split
    · rename_i hbill
      exact AdCampaign.reserve_eq_self (h (event.campaignId, event.costMicros) (by simp [AdsWrite.counted, hbill]))
    · rfl
  | correct x =>
    have hzero := h (x.event.campaignId, x.event.costMicros) rfl
    simp only [AdsWrite.spends]
    split
    · exact AdCampaign.reserve_eq_self hzero
    · exact AdCampaign.release_eq_self hzero
  | invoice draft charges => rfl

/-- A journal leaves a campaign whose counter it did not lock. -/
theorem find?_campaigns_replay {ws : List AdsWrite} {id : Nat}
    (h : ∀ w ∈ ws, ∀ r ∈ w.counted, r.1 = id → r.2 = 0) (s : AdsDb) :
    ((adsScript config).replay ws s).campaigns.find? id = s.campaigns.find? id := by
  refine Script.replay_preserves (S := adsScript config)
    (I := fun s' => s'.campaigns.find? id = s.campaigns.find? id) (fun w hw s' hs' => ?_) rfl
  rw [find?_campaigns_apply, hs']
  cases hfind : s.campaigns.find? id with
  | none => rfl
  | some c =>
    obtain ⟨-, rfl⟩ := Table.find?_eq_some.mp hfind
    exact congrArg some (spends_eq_self (h w hw))

/-! ## What locks keep -/

/-- Two stores have the same row for the campaigns that are locked. -/
def AgreeOn (held : List AdsLock) (s s' : AdsDb) : Prop :=
  ∀ id, .campaign id ∈ held → s.campaigns.find? id = s'.campaigns.find? id

theorem AgreeOn.apply {held : List AdsLock} {s s' : AdsDb} (h : AgreeOn held s s') (w : AdsWrite) :
    AgreeOn held ((adsScript config).apply w s) ((adsScript config).apply w s') := by
  intro id hid
  rw [find?_campaigns_apply, find?_campaigns_apply, h id hid]

theorem AgreeOn.budgetAllows {held : List AdsLock} {s s' : AdsDb} (h : AgreeOn held s s') {r : Nat × Nat}
    (hheld : CounterHeld held r) : s.budgetAllows r.1 r.2 = s'.budgetAllows r.1 r.2 := by
  unfold AdsDb.budgetAllows
  by_cases hzero : r.2 = 0
  · simp [hzero]
  · rw [h r.1 (hheld hzero)]

theorem reservation_counted {w : AdsWrite} {r : Nat × Nat} (h : r ∈ w.reservation) : r ∈ w.counted := by
  cases w with
  | correct c =>
    simp only [AdsWrite.reservation] at h
    split at h
    · exact h
    · cases h
  | _ => exact h

theorem stage_reservation_counted {stage : AdsStage} {r : Nat × Nat} (h : r ∈ stage.reservation) :
    r ∈ stage.counted := by
  cases stage with
  | budgetReleased c =>
    simp only [AdsStage.reservation] at h
    split at h
    · exact h
    · cases h
  | _ => exact h

/-- What a transaction relies on is under its locks. -/
theorem AdsRelies.locked {p : AdsPoint} {s s' : AdsDb} (h : AdsRelies config p s)
    (hkeeps : ∀ k ∈ p.held, keepsCampaign k s s') : AdsRelies config p s' := by
  have hagree : AgreeOn p.held s s' := fun id hid => hkeeps _ hid
  refine { h with fits := ?_, allows := fun r hr => ?_ }
  · refine Script.Fits.transfer (r := AgreeOn p.held) (fun w _ _ hagree => hagree.apply w)
      (fun w hw t t' hagree hfits r hr => ?_) hagree h.fits
    rw [← hagree.budgetAllows (h.journalHeld w hw r (reservation_counted hr))]
    exact hfits r hr
  · have hreplay := @Script.replay_relates _ _ _ _ _ _ (adsScript config) (AgreeOn p.held)
      (fun w _ _ hagree => hagree.apply w) p.journal _ _ hagree
    rw [← hreplay.budgetAllows (h.held r (stage_reservation_counted hr))]
    exact h.allows r hr

theorem CounterHeld.budgetLocks (campaignId costMicros : Nat) (held : List AdsLock) :
    CounterHeld (budgetLocks campaignId costMicros ++ held) (campaignId, costMicros) := by
  intro hne
  simp [AtlasErp.budgetLocks, hne]

theorem CounterHeld.append {held : List AdsLock} {r : Nat × Nat} (h : CounterHeld held r) (locks : List AdsLock) :
    CounterHeld (locks ++ held) r := fun hne => List.mem_append_right _ (h hne)

section Statement

variable {held : List AdsLock} {journal : List AdsWrite} {stage stage' : AdsStage} {s : AdsDb}
  {locks : List AdsLock}

/-- A transaction begins with nothing reserved. -/
theorem AdsRelies.begin (hcounted : stage.counted = none) (hcorrection : stage.correction = none) :
    AdsRelies config ⟨[], [], stage⟩ s where
  fits := trivial
  allows r hr := by
    have hr' := stage_reservation_counted hr
    rw [hcounted] at hr'
    cases hr'
  held r hr := by
    rw [hcounted] at hr
    cases hr
  journalHeld w hw := absurd hw List.not_mem_nil
  changes c hc := by
    rw [hcorrection] at hc
    cases hc
  first _ := rfl
  alone c hc := absurd hc List.not_mem_nil

/-- A statement that writes nothing. -/
theorem AdsRelies.quiet (h : AdsRelies config ⟨held, journal, stage⟩ s) (hunfinished : stage ≠ .finished)
    (hallows : ∀ r ∈ stage'.reservation, ((adsScript config).replay journal s).budgetAllows r.1 r.2 = true)
    (hheld : ∀ r ∈ stage'.counted, CounterHeld (locks ++ held) r)
    (hchanges : ∀ c ∈ stage'.correction, c.event.isBillable ≠ c.nextIsBillable)
    (hfirst : stage'.corrects = true → stage.corrects = true) :
    AdsRelies config ⟨locks ++ held, journal ++ [], stage'⟩ s := by
  rw [List.append_nil]
  exact {
    fits := h.fits
    allows := hallows
    held := hheld
    journalHeld := fun w hw r hr => (h.journalHeld w hw r hr).append locks
    changes := hchanges
    first := fun hstage => h.first (hfirst hstage)
    alone := fun c hc => absurd (h.alone c hc).1 hunfinished }

/-- A statement that writes nothing and leads to a stage without a counter or a correction. -/
theorem AdsRelies.pass (h : AdsRelies config ⟨held, journal, stage⟩ s) (hunfinished : stage ≠ .finished)
    (hcounted : stage'.counted = none) (hcorrection : stage'.correction = none)
    (hcorrects : stage'.corrects = false) : AdsRelies config ⟨locks ++ held, journal ++ [], stage'⟩ s := by
  refine h.quiet hunfinished (fun r hr => ?_) (fun r hr => ?_) (fun c hc => ?_) fun hstage => ?_
  · have hr' := stage_reservation_counted hr
    rw [hcounted] at hr'
    cases hr'
  · rw [hcounted] at hr
    cases hr
  · rw [hcorrection] at hc
    cases hc
  · rw [hcorrects] at hstage
    cases hstage

/-- A statement that writes an entry. -/
theorem AdsRelies.write (h : AdsRelies config ⟨held, journal, stage⟩ s) (hunfinished : stage ≠ .finished)
    {w : AdsWrite} (hfits : WithinBudget w ((adsScript config).replay journal s))
    (hheld : ∀ r ∈ w.counted, CounterHeld (locks ++ held) r)
    (hcounted : stage'.counted = none) (hcorrection : stage'.correction = none)
    (hcorrects : stage'.corrects = false)
    (halone : ∀ c, w = .correct c → stage' = .finished ∧ journal = [] ∧ c.event.isBillable ≠ c.nextIsBillable) :
    AdsRelies config ⟨locks ++ held, journal ++ [w], stage'⟩ s where
  fits := Script.fits_append.mpr ⟨h.fits, hfits, trivial⟩
  allows r hr := by
    have hr' := stage_reservation_counted hr
    rw [hcounted] at hr'
    cases hr'
  held r hr := by
    rw [hcounted] at hr
    cases hr
  journalHeld w' hw' r hr := by
    rcases List.mem_append.mp hw' with hw' | hw'
    · exact (h.journalHeld w' hw' r hr).append locks
    · obtain rfl := List.mem_singleton.mp hw'
      exact hheld r hr
  changes c hc := by
    rw [hcorrection] at hc
    cases hc
  first hstage := by
    rw [hcorrects] at hstage
    cases hstage
  alone c hc := by
    rcases List.mem_append.mp hc with hc | hc
    · exact absurd (h.alone c hc).1 hunfinished
    · obtain ⟨hstage, rfl, hchanges⟩ := halone c (List.mem_singleton.mp hc).symm
      rw [← List.mem_singleton.mp hc]
      exact ⟨hstage, rfl, hchanges⟩

end Statement

/-- The entry of a tracked event counts only when it is billable. -/
theorem counted_record {t : TrackedEvent} {isBillable : Bool} {currency reason : String} {occurredAt : Instant}
    {r : Nat × Nat} (hr : r ∈ (AdsWrite.record (t.row isBillable) currency reason occurredAt).counted) :
    isBillable = true ∧ r = (t.decision.campaignId, t.costMicros) := by
  cases isBillable with
  | true => exact ⟨rfl, (Option.some.inj hr).symm⟩
  | false => cases hr

/-- **One statement** keeps what a transaction relies on. -/
theorem AdsRelies.goto {p p' : AdsPoint} {s : AdsDb} (h : AdsRelies config p s)
    (hnext : (adsScript config).program.next p ((adsScript config).program.writes p s) = .goto p') :
    AdsRelies config p' s := by
  obtain ⟨locks, writes, hmove, hheld, hjournal⟩ := Script.follow_eq_goto hnext
  obtain ⟨held, journal, stage⟩ := p
  obtain ⟨held', journal', stage'⟩ := p'
  obtain rfl : held' = locks ++ held := hheld
  obtain rfl : journal' = journal ++ writes := hjournal
  have hmoves : AdsMoves config ((adsScript config).replay journal s) stage locks writes stage' :=
    adsMove_cases config hmove
  clear hnext hmove
  cases hmoves with
  | decide => exact h.pass AdsStage.noConfusion rfl rfl rfl
  | repeated => exact h.pass AdsStage.noConfusion rfl rfl rfl
  | @reserve t rest answers hallows =>
    refine h.quiet AdsStage.noConfusion (fun r hr => ?_) (fun r hr => ?_) (fun c hc => ?_) fun hc => ?_
    · obtain rfl := Option.some.inj hr
      exact hallows
    · obtain rfl := Option.some.inj hr
      exact .budgetLocks _ _ _
    · cases hc
    · cases hc
  | skip => exact h.pass AdsStage.noConfusion rfl rfl rfl
  | @record t isBillable rest answers answer =>
    refine h.write AdsStage.noConfusion (fun r hr => ?_) (fun r hr => ?_) rfl rfl rfl fun c hc => ?_
    · obtain ⟨rfl, rfl⟩ := counted_record (reservation_counted hr)
      exact h.allows _ rfl
    · obtain ⟨rfl, rfl⟩ := counted_record hr
      exact (h.held _ rfl).append _
    · cases hc
  | @readEvent eventId input occurredAt c hchanges =>
    refine h.quiet AdsStage.noConfusion (fun r hr => ?_) (fun r hr => ?_) (fun c' hc' => ?_) fun _ => rfl
    · cases hr
    · cases hr
    · obtain rfl := Option.some.inj hc'
      exact hchanges
  | @reserveAgain c hflag hallows =>
    refine h.quiet AdsStage.noConfusion (fun r hr => ?_) (fun r hr => ?_) h.changes fun _ => rfl
    · obtain rfl := Option.some.inj hr
      exact hallows
    · obtain rfl := Option.some.inj hr
      exact .budgetLocks _ _ _
  | @unmark c hflag =>
    have hnone : ∀ r, r ∉ (AdsStage.flagWritten c).reservation := by simp [AdsStage.reservation, hflag]
    exact h.quiet AdsStage.noConfusion (fun r hr => absurd hr (hnone r)) (fun r hr => absurd hr (hnone r))
      h.changes fun _ => rfl
  | @mark c =>
    have hsome : ∀ r ∈ (AdsStage.flagWritten c).reservation, r ∈ (AdsStage.budgetReserved c).reservation := by
      intro r hr
      simp only [AdsStage.reservation] at hr ⊢
      split at hr
      · exact hr
      · cases hr
    exact h.quiet AdsStage.noConfusion (fun r hr => h.allows r (hsome r hr))
      (fun r hr => (h.held r (hsome r hr)).append _) h.changes fun _ => rfl
  | @chargeAgain c locks hflag =>
    have hsome : (AdsStage.flagWritten c).counted = some (c.event.campaignId, c.event.costMicros) := by
      simp [AdsStage.counted, AdsStage.reservation, hflag]
    refine h.write AdsStage.noConfusion (fun r hr => h.allows r hr) (fun r hr => ?_) rfl rfl rfl fun c' hc' => ?_
    · exact (h.held r (hsome.trans hr)).append _
    · obtain rfl := AdsWrite.correct.inj hc'
      exact ⟨rfl, h.first rfl, h.changes c rfl⟩
  | @release c hflag =>
    refine h.quiet AdsStage.noConfusion (fun r hr => ?_) (fun r hr => ?_) h.changes fun _ => rfl
    · simp [AdsStage.reservation, hflag] at hr
    · obtain rfl := Option.some.inj hr
      exact .budgetLocks _ _ _
  | @credit c =>
    refine h.write AdsStage.noConfusion (fun r hr => h.allows r hr) (fun r hr => (h.held r hr).append _) rfl rfl rfl
      fun c' hc' => ?_
    obtain rfl := AdsWrite.correct.inj hc'
    exact ⟨rfl, h.first rfl, h.changes c rfl⟩
  | group => exact h.pass AdsStage.noConfusion rfl rfl rfl
  | check => exact h.pass AdsStage.noConfusion rfl rfl rfl
  | profile => exact h.pass AdsStage.noConfusion rfl rfl rfl
  | invoice =>
    refine h.write AdsStage.noConfusion (fun r hr => ?_) (fun r hr => ?_) rfl rfl rfl fun c hc => ?_
    all_goals first | cases hr | cases hc

/-! ## Commits -/

/-- The correction of an entry. -/
def AdsWrite.correction : AdsWrite → Option Correction
  | .correct c => some c
  | _ => none

/-- The condition on a step: a correction that commits finds the event as it read it. -/
def FindsAsRead (p : AdsPoint) (s : AdsDb) : Prop :=
  ∀ w ∈ p.journal, ∀ c ∈ w.correction, s.events.find? c.event.id = some c.event

instance (p : AdsPoint) (s : AdsDb) : Decidable (FindsAsRead p s) :=
  inferInstanceAs (Decidable (∀ w ∈ p.journal, ∀ c ∈ w.correction, _ = _))

/-- An entry that is within the budget and, when it is a correction, finds the event as it read it. -/
def KeepsSpend (w : AdsWrite) (s : AdsDb) : Prop :=
  WithinBudget w s ∧ ∀ c ∈ w.correction, c.event ∈ s.events ∧ c.event.isBillable ≠ c.nextIsBillable

/-- **One entry** keeps the books. -/
theorem SpendBooks.apply {w : AdsWrite} {s : AdsDb} (hw : KeepsSpend w s) (h : SpendBooks s) :
    SpendBooks ((adsScript config).apply w s) := by
  obtain ⟨hbudget, hcorrection⟩ := hw
  cases w with
  | record event currency reason occurredAt =>
    refine h.recordEvent fun hbill => hbudget (event.campaignId, event.costMicros) ?_
    simp [AdsWrite.reservation, hbill]
  | correct c =>
    obtain ⟨hevent, hchanges⟩ := hcorrection c rfl
    refine h.correctEvent hevent hchanges fun hnext => hbudget (c.event.campaignId, c.event.costMicros) ?_
    simp [AdsWrite.reservation, hnext]
  | invoice draft charges => exact ⟨⟨h.spend, h.net, h.bounds⟩, h.billable, h.about⟩

/-- The journal of a transaction keeps the books when its correction finds the event as it read it. -/
theorem AdsRelies.keepsSpend {p : AdsPoint} {s : AdsDb} (h : AdsRelies config p s) (hasRead : FindsAsRead p s) :
    (adsScript config).Fits KeepsSpend p.journal s := by
  by_cases hcorrects : ∃ c, .correct c ∈ p.journal
  · obtain ⟨c, hc⟩ := hcorrects
    obtain ⟨-, hjournal, hchanges⟩ := h.alone c hc
    have hevent := (Table.find?_eq_some.mp (hasRead _ hc c rfl)).1
    have hfits := h.fits
    rw [hjournal] at hfits ⊢
    refine ⟨⟨hfits.1, fun c' hc' => ?_⟩, trivial⟩
    obtain rfl := Option.some.inj hc'
    exact ⟨hevent, hchanges⟩
  · refine h.fits.mono fun w hw s hfit => ⟨hfit, fun c hc => ?_⟩
    cases w with
    | correct c' => exact absurd ⟨c', hw⟩ hcorrects
    | _ => cases hc

/-- **The discipline of the three requests**, for whatever a journal that commits keeps. -/
theorem ads_disciplinedIf {okAt : AdsPoint → AdsDb → Prop} {I : AdsDb → Prop}
    (hcommit : ∀ {p : AdsPoint} {s : AdsDb}, I s → AdsRelies config p s → okAt p s →
      I ((adsScript config).replay p.journal s)) :
    (adsScript config).program.DisciplinedIf okAt I (AdsRelies config) keepsCampaign where
  start request s _ := by
    cases request <;> exact .begin rfl rfl
  goto _ h _ hnext := h.goto hnext
  commit hI h hok _ := hcommit hI h hok
  guarded _ h _ _ k hk := by
    cases k with
    | campaign id =>
      refine (find?_campaigns_replay (fun w hw r hr hid => ?_) _).symm
      by_contra hne
      exact hk (hid ▸ h.journalHeld w hw r hr hne)
    | _ => trivial
  locked hkeeps h := h.locked hkeeps

theorem ads_disciplined :
    (adsScript config).program.DisciplinedIf FindsAsRead SpendBooks (AdsRelies config) keepsCampaign :=
  ads_disciplinedIf fun hbooks h hasRead => (h.keepsSpend hasRead).replay (fun _ _ hw h => h.apply hw) hbooks

/-- **The spend of a campaign is exact.** In every interleaving in which each correction that commits
finds the event as it read it, the counter of a campaign is the sum of its ledger and within its budget,
and the net of an event is its cost or nothing. -/
theorem spendExact_of_reachable {S : AdsSessions}
    (h : ((adsScript config).program.machine NoAdsActivity).Reachable (Program.Meets FindsAsRead) S) :
    SpendExact S.committed :=
  (Program.serves_if ads_disciplined (fun _ hinit => .of_noActivity hinit) h).1.toSpendExact

end Locks

section Examples

/-- Two corrections read the event as billable, and both give its cost back. -/
def refundedTwice : List (Act AdsRequest) :=
  trackedClick ++
    [.start 2 (.updateBillableStatus 1 ⟨false, "fraude"⟩ 2000), .advance 2,
      .start 3 (.updateBillableStatus 1 ⟨false, "fraude"⟩ 3000), .advance 3] ++
    List.replicate 4 (.advance 2) ++ List.replicate 4 (.advance 3)

/-- The cost is given back, and charged again. -/
def refundedAndCharged : List (Act AdsRequest) :=
  trackedClick ++
    .start 2 (.updateBillableStatus 1 ⟨false, "fraude"⟩ 2000) :: List.replicate 5 (.advance 2) ++
    .start 3 (.updateBillableStatus 1 ⟨true, "revisado"⟩ 3000) :: List.replicate 5 (.advance 3)

/-- **A cost given back twice**: the ledger of the event goes below zero and the counter does not. -/
theorem spendExact_counterexample :
    ¬ ∀ S, ((adsScript exampleAdsConfig).program.machine NoAdsActivity).Reachable (fun _ _ => True) S →
      SpendExact S.committed := by
  intro h
  have hinit : ((adsScript exampleAdsConfig).program.machine NoAdsActivity).init ⟨exampleAdsDb, []⟩ :=
    ⟨⟨rfl, rfl, by decide⟩, rfl⟩
  have hexact := h _ (Machine.reachable_after _ hinit refundedTwice)
  have hevent : (⟨1, .click, 1000, 1, 1, 1, 1, 1, 1, none, 500000, false⟩ : AdEvent) ∈
      (((adsScript exampleAdsConfig).program.machine NoAdsActivity).after ⟨exampleAdsDb, []⟩
        refundedTwice).committed.events.rows := by
    decide +kernel
  have hnet : (((adsScript exampleAdsConfig).program.machine NoAdsActivity).after ⟨exampleAdsDb, []⟩
      refundedTwice).committed.netOf 1 = -500000 := by
    decide +kernel
  have hzero := hexact.net _ hevent
  rw [hnet] at hzero
  exact absurd hzero (by decide)

/-- A correction and its reversal. -/
theorem spendExact_of_reachable_corrected :
    ∃ S, ((adsScript exampleAdsConfig).program.machine NoAdsActivity).Reachable (Program.Meets FindsAsRead) S ∧
      S.committed.ledger.rows.map (·.amountMicros) = [500000, -500000, 500000] ∧
      S.committed.campaigns.rows.map (·.spendTotalMicros) = [500000] ∧ SpendExact S.committed := by
  have hinit : ((adsScript exampleAdsConfig).program.machine NoAdsActivity).init ⟨exampleAdsDb, []⟩ :=
    ⟨⟨rfl, rfl, by decide⟩, rfl⟩
  have hreach := Machine.reachable_afterIf ((adsScript exampleAdsConfig).program.machine NoAdsActivity)
    (Program.Meets FindsAsRead) hinit refundedAndCharged
  exact ⟨_, hreach, by decide +kernel, by decide +kernel, spendExact_of_reachable hreach⟩

end Examples

end AtlasErp
