import AtlasErp.Ads.Moderation
import AtlasErp.Lib.Grouping

/-! # Advertising: what waits for review can be decided

A submission creates the reviews that do not wait yet and marks the campaign, its ads and their creatives as pending.

- `QueueSound`: what is pending has one undecided review, and a review is decided once;
- `QueueBooks.submit`, `QueueBooks.decide`: what a submission and a decision keep;
- `queueSound`: every run in which a submission that commits finds the reviews that it read and, when one of them names
  the campaign, the campaign's own among them;
- `queueSound_counterexample`: a campaign that was rejected is submitted again while the review of an ad waits. -/

namespace AtlasErp

open Lib

/-! ## Targets -/

/-- What a review decides on. -/
inductive ReviewTarget where
  | campaign (id : Nat)
  | ad (id : Nat)
  | creative (id : Nat)
  deriving DecidableEq

/-- The review decides on a target. -/
def ModerationReview.isOf (r : ModerationReview) : ReviewTarget → Bool
  | .campaign id => r.ofCampaign id
  | .ad id => r.adId = some id
  | .creative id => r.creativeId = some id

namespace ModerationDb

variable (db : ModerationDb)

/-- The approval of a target that is stored. -/
def approvalOf : ReviewTarget → Option AdApprovalStatus
  | .campaign id => (db.campaigns.find? id).map (·.approvalStatus)
  | .ad id => (db.ads.find? id).map (·.approvalStatus)
  | .creative id => (db.creatives.find? id).map (·.policyReviewStatus)

/-- The reviews of a target that are not decided. -/
def openReviews (target : ReviewTarget) : List ModerationReview :=
  db.reviews.rowsWhere fun r => r.decision = .pendingReview ∧ r.isOf target = true

/-- How many they are. -/
def openCount (target : ReviewTarget) : Int :=
  db.reviews.total fun r => if r.decision = .pendingReview ∧ r.isOf target = true then 1 else 0

theorem openCount_eq (target : ReviewTarget) : db.openCount target = (db.openReviews target).length := by
  rw [openReviews, Table.length_rowsWhere]
  exact Table.total_congr fun r _ => by simp

end ModerationDb

/-- What waits for review can be decided, and what was decided is not decided again. -/
structure QueueSound (db : ModerationDb) : Prop where
  campaigns : ∀ c ∈ db.campaigns, c.approvalStatus = .pending → (db.openReviews (.campaign c.id)).length = 1
  ads : ∀ ad ∈ db.ads, ad.approvalStatus = .pending → (db.openReviews (.ad ad.id)).length = 1
  creatives : ∀ creative ∈ db.creatives, creative.policyReviewStatus = .pending →
    (db.openReviews (.creative creative.id)).length = 1
  once : db.decided.Nodup

/-- Before the first submission. -/
def NothingInReview (db : ModerationDb) : Prop :=
  db.reviews = .empty ∧ db.decided = [] ∧ (∀ c ∈ db.campaigns, c.approvalStatus ≠ .pending) ∧
    (∀ ad ∈ db.ads, ad.approvalStatus ≠ .pending) ∧ ∀ creative ∈ db.creatives, creative.policyReviewStatus ≠ .pending

/-- The condition on a step: a submission that commits finds waiting the reviews that it read and, when one of them
names the campaign, one of the campaign itself. -/
def FindsQueue (p : CampaignPoint) (db : ModerationDb) : Prop :=
  match p with
  | .creativesMarked d => findPendingReviews db d.campaign.id d.adIds d.creativeIds = d.yaPendientes ∧
      (d.campana = true → ∃ r ∈ d.yaPendientes, r.ofCampaign d.campaign.id = true)
  | _ => True

instance (p : CampaignPoint) (db : ModerationDb) : Decidable (FindsQueue p db) :=
  match p with
  | .creativesMarked _ => inferInstanceAs (Decidable (_ ∧ (_ → ∃ r ∈ _, _)))
  | .statusWritten .. | .targetsWritten .. | .transitionChecked .. | .campaignLocked .. | .toggled .. | .submitting ..
  | .adsRead .. | .queueRead _ | .campaignMarked _ | .adsMarked _ | .deciding _ | .reviewDecided _ => .isTrue trivial

/-! ## The invariant -/

/-- What is pending has one review that waits, and nothing else has one; what was decided stays decided. -/
structure QueueBooks (db : ModerationDb) : Prop where
  counts : ∀ target approval, db.approvalOf target = some approval →
    db.openCount target = if approval = .pending then 1 else 0
  once : db.decided.Nodup
  settled : ∀ id ∈ db.decided, ∃ r, db.reviews.find? id = some r ∧ r.decision ≠ .pendingReview

section Books

variable {db db' : ModerationDb}

theorem QueueBooks.of_nothing (h : NothingInReview db) : QueueBooks db := by
  obtain ⟨hreviews, hdecided, hcampaigns, hads, hcreatives⟩ := h
  refine ⟨fun target approval happroval => ?_, by simp [hdecided], by simp [hdecided]⟩
  have hnot : approval ≠ .pending := by
    cases target <;> obtain ⟨row, hfind, rfl⟩ := Option.map_eq_some_iff.mp happroval <;>
      have hrow := (Table.find?_eq_some.mp hfind).1
    · exact hcampaigns row hrow
    · exact hads row hrow
    · exact hcreatives row hrow
  rw [if_neg hnot, ModerationDb.openCount, hreviews]
  rfl

theorem QueueBooks.sound (h : QueueBooks db) : QueueSound db := by
  have hone : ∀ target, db.approvalOf target = some .pending → (db.openReviews target).length = 1 := by
    intro target happroval
    have hcount := h.counts target _ happroval
    rw [if_pos rfl, db.openCount_eq] at hcount
    exact_mod_cast hcount
  refine ⟨fun c hc hpending => hone _ ?_, fun ad had hpending => hone _ ?_,
    fun creative hcreative hpending => hone _ ?_, h.once⟩
  · exact Option.map_eq_some_iff.mpr ⟨c, Table.find?_key hc, hpending⟩
  · exact Option.map_eq_some_iff.mpr ⟨ad, Table.find?_key had, hpending⟩
  · exact Option.map_eq_some_iff.mpr ⟨creative, Table.find?_key hcreative, hpending⟩

/-- A change of the statuses of campaigns alone. -/
theorem QueueBooks.withStatus (h : QueueBooks db) (entity : ModeratedCampaign) (status : CampaignStatus) :
    QueueBooks (CampaignPoint.withStatus db entity status) := by
  unfold CampaignPoint.withStatus
  split
  · exact h
  · refine ⟨fun target approval happroval => h.counts target approval ?_, h.once, h.settled⟩
    refine Eq.trans ?_ happroval
    cases target with
    | campaign id =>
      refine Eq.symm
        ((Table.map_find?_updateWhere (f := ModeratedCampaign.inStatus status) (fun _ => rfl) _ id).trans ?_)
      refine congrArg (fun g => (db.campaigns.find? id).map g) (funext fun c => ?_)
      split <;> rfl
    | _ => rfl

/-- A target with a review that waits is pending, and it has one. -/
theorem QueueBooks.pending_of_open (h : QueueBooks db) {target : ReviewTarget} {approval : AdApprovalStatus}
    (happroval : db.approvalOf target = some approval) {r : ModerationReview} (hr : r ∈ db.reviews)
    (hpending : r.decision = .pendingReview) (hof : r.isOf target = true) :
    approval = .pending ∧ db.openCount target = 1 := by
  have hcount := h.counts target approval happroval
  have hle := Table.le_total (t := db.reviews)
    (w := fun r => if r.decision = .pendingReview ∧ r.isOf target = true then 1 else 0)
    (fun r _ => by split <;> decide) hr
  rw [if_pos ⟨hpending, hof⟩] at hle
  have hopen : 1 ≤ db.openCount target := hle
  by_cases heq : approval = .pending
  · rw [if_pos heq] at hcount
    exact ⟨heq, hcount⟩
  · rw [if_neg heq] at hcount
    omega

end Books

/-! ## Submissions -/

namespace CampaignSubmission

variable (d : CampaignSubmission)

/-- The submission is about a target. -/
def covers : ReviewTarget → Bool
  | .campaign id => id = d.campaign.id
  | .ad id => id ∈ d.adIds
  | .creative id => id ∈ d.creativeIds

/-- A review of a target waits already, as the submission sees it. -/
def waits : ReviewTarget → Bool
  | .campaign _ => d.campana
  | .ad id => d.anuncios id
  | .creative id => d.creatividades id

variable {d}

/-- What a submission creates for a target: a review, unless one waits. -/
theorem sum_pendientes (hads : d.adIds.Nodup) (target : ReviewTarget) :
    (d.pendientes.map fun pending => if (d.row pending 0).isOf target = true then (1 : Int) else 0).sum =
      if d.covers target = true ∧ d.waits target = false then 1 else 0 := by
  have hindicator : ∀ (ids : List Nat) (waiting : Nat → Bool) (id : Nat), ids.Nodup →
      ((ids.filter fun i => !waiting i).map fun i => if id = i then (1 : Int) else 0).sum =
        if id ∈ ids ∧ waiting id = false then 1 else 0 := by
    intro ids waiting id hids
    by_cases hmem : id ∈ ids.filter fun i => !waiting i
    · rw [sum_indicator (hids.filter _) hmem, if_pos]
      simpa using List.mem_filter.mp hmem
    · rw [if_neg fun hand => hmem (List.mem_filter.mpr ⟨hand.1, by simp [hand.2]⟩)]
      refine List.sum_eq_zero fun x hx => ?_
      obtain ⟨i, hi, rfl⟩ := List.mem_map.mp hx
      exact if_neg fun heq => hmem (by rwa [heq])
  simp only [pendientes, List.map_append, List.map_map, List.sum_append, Function.comp_def]
  cases target with
  | campaign id =>
    have hothers : ∀ (ids : List Nat) (f : Nat → Pending), (∀ i, (f i).adId.isSome ∨ (f i).creativeId.isSome) →
        (ids.map fun i => if (d.row (f i) 0).isOf (.campaign id) = true then (1 : Int) else 0).sum = 0 := by
      intro ids f hf
      refine List.sum_eq_zero fun x hx => ?_
      obtain ⟨i, -, rfl⟩ := List.mem_map.mp hx
      refine if_neg fun hof => ?_
      simp only [row, ModerationReview.isOf, ModerationReview.ofCampaign, Bool.and_eq_true, Option.isNone_iff_eq_none]
        at hof
      rcases hf i with hsome | hsome
      · rw [hof.1.2] at hsome
        cases hsome
      · rw [hof.2] at hsome
        cases hsome
    rw [hothers _ _ fun i => .inl rfl, hothers _ _ fun i => .inr rfl, add_zero, add_zero]
    by_cases hid : d.campaign.id = id <;> by_cases hcampana : d.campana = true <;>
      simp [hid, hcampana, eq_comm (a := id), row, ModerationReview.isOf, ModerationReview.ofCampaign, covers, waits]
  | ad id =>
    have hsum := hindicator d.adIds d.anuncios id hads
    by_cases hcampana : d.campana = true <;>
      simpa [hcampana, row, ModerationReview.isOf, covers, waits, eq_comm (b := id)] using hsum
  | creative id =>
    have hsum := hindicator d.creativeIds d.creatividades id (List.nodup_dedup _)
    by_cases hcampana : d.campana = true <;>
      simpa [hcampana, row, ModerationReview.isOf, covers, waits, eq_comm (b := id)] using hsum

end CampaignSubmission

section Submit

variable {db : ModerationDb} {d : CampaignSubmission}

theorem openCount_submit (hads : d.adIds.Nodup) (target : ReviewTarget) :
    (d.commit db).openCount target =
      db.openCount target + if d.covers target = true ∧ d.waits target = false then 1 else 0 := by
  rw [← CampaignSubmission.sum_pendientes hads]
  refine Table.total_foldl_create
    (v := fun pending => if (d.row pending 0).isOf target = true then (1 : Int) else 0) (fun _ _ => rfl)
    (fun pending k => ?_) _
  have hsame : (d.row pending k).isOf target = (d.row pending 0).isOf target := by cases target <;> rfl
  simp only [hsame]
  exact if_congr (and_iff_right rfl) rfl rfl

/-- What a submission is about is pending afterwards. -/
theorem approvalOf_submit (target : ReviewTarget) :
    (d.commit db).approvalOf target =
      (db.approvalOf target).map fun approval => if d.covers target = true then .pending else approval := by
  cases target with
  | campaign id =>
    refine (Table.map_find?_updateWhere (f := ModeratedCampaign.moderated .pending .pendingReview) (fun _ => rfl) _
      id).trans ((Option.map_congr fun c hc => ?_).trans (Option.map_map _ _ _).symm)
    obtain rfl : c.id = id := (Table.find?_eq_some.mp hc).2
    by_cases hid : c.id = d.campaign.id <;> simp [hid, CampaignSubmission.covers, ModeratedCampaign.moderated]
  | ad id =>
    refine (Table.map_find?_updateWhere (f := ModeratedAd.moderated .pending .pendingReview) (fun _ => rfl) _
      id).trans ((Option.map_congr fun ad had => ?_).trans (Option.map_map _ _ _).symm)
    obtain rfl : ad.id = id := (Table.find?_eq_some.mp had).2
    by_cases hid : ad.id ∈ d.adIds <;> simp [hid, CampaignSubmission.covers, ModeratedAd.moderated]
  | creative id =>
    refine (Table.map_find?_updateWhere (f := ModeratedCreative.moderated .pending .pendingReview) (fun _ => rfl) _
      id).trans ((Option.map_congr fun creative hcreative => ?_).trans (Option.map_map _ _ _).symm)
    obtain rfl : creative.id = id := (Table.find?_eq_some.mp hcreative).2
    by_cases hid : creative.id ∈ d.creativeIds <;> simp [hid, CampaignSubmission.covers, ModeratedCreative.moderated]

/-- What the submission saw waiting does wait. -/
theorem exists_open_of_waits (hqueue : FindsQueue (.creativesMarked d) db) {target : ReviewTarget}
    (hcovers : d.covers target = true) :
    d.waits target = true ↔ ∃ r ∈ db.reviews, r.decision = .pendingReview ∧ r.isOf target = true := by
  obtain ⟨hread, hown⟩ := hqueue
  have hmem : ∀ r, r ∈ d.yaPendientes ↔ r ∈ db.reviews ∧ r.decision = .pendingReview ∧
      (r.campaignId = some d.campaign.id ∨ (∃ adId ∈ r.adId, adId ∈ d.adIds) ∨
        ∃ creativeId ∈ r.creativeId, creativeId ∈ d.creativeIds) := by
    intro r
    rw [← hread, findPendingReviews, Table.mem_rowsWhere, decide_eq_true_eq]
  cases target with
  | campaign id =>
    obtain rfl : id = d.campaign.id := of_decide_eq_true hcovers
    constructor
    · intro hwaits
      obtain ⟨r, hr, hof⟩ := hown hwaits
      obtain ⟨hr, hpending, -⟩ := (hmem r).mp hr
      exact ⟨r, hr, hpending, hof⟩
    · rintro ⟨r, hr, hpending, hof⟩
      have hcampaign : r.campaignId = some d.campaign.id := by
        simp only [ModerationReview.isOf, ModerationReview.ofCampaign, Bool.and_eq_true, decide_eq_true_eq] at hof
        exact hof.1.1
      exact List.any_eq_true.mpr ⟨r, (hmem r).mpr ⟨hr, hpending, .inl hcampaign⟩, decide_eq_true hcampaign⟩
  | ad id =>
    have hid : id ∈ d.adIds := of_decide_eq_true hcovers
    simp only [CampaignSubmission.waits, CampaignSubmission.anuncios, List.any_eq_true, decide_eq_true_eq,
      ModerationReview.isOf]
    constructor
    · rintro ⟨r, hr, had⟩
      obtain ⟨hr, hpending, -⟩ := (hmem r).mp hr
      exact ⟨r, hr, hpending, had⟩
    · rintro ⟨r, hr, hpending, had⟩
      exact ⟨r, (hmem r).mpr ⟨hr, hpending, .inr (.inl ⟨id, had, hid⟩)⟩, had⟩
  | creative id =>
    have hid : id ∈ d.creativeIds := of_decide_eq_true hcovers
    simp only [CampaignSubmission.waits, CampaignSubmission.creatividades, List.any_eq_true, decide_eq_true_eq,
      ModerationReview.isOf]
    constructor
    · rintro ⟨r, hr, hcreative⟩
      obtain ⟨hr, hpending, -⟩ := (hmem r).mp hr
      exact ⟨r, hr, hpending, hcreative⟩
    · rintro ⟨r, hr, hpending, hcreative⟩
      exact ⟨r, (hmem r).mpr ⟨hr, hpending, .inr (.inr ⟨id, hcreative, hid⟩)⟩, hcreative⟩

/-- **A submission** that finds the reviews that it read keeps the books. -/
theorem QueueBooks.submit (h : QueueBooks db) (hads : d.adIds.Nodup) (hqueue : FindsQueue (.creativesMarked d) db) :
    QueueBooks (d.commit db) := by
  refine ⟨fun target approval happroval => ?_, h.once, fun id hid => ?_⟩
  · rw [approvalOf_submit] at happroval
    obtain ⟨before, hbefore, rfl⟩ := Option.map_eq_some_iff.mp happroval
    rw [openCount_submit hads]
    have hcount := h.counts target before hbefore
    cases hcovers : d.covers target with
    | false => simpa using hcount
    | true =>
      cases hwaits : d.waits target with
      | true =>
        obtain ⟨r, hr, hpending, hof⟩ := (exists_open_of_waits hqueue hcovers).mp hwaits
        simp [(h.pending_of_open hbefore hr hpending hof).2]
      | false =>
        -- no review of it waits, so it was not pending
        have hnone : db.openCount target = 0 := by
          refine Table.total_eq_zero fun r hr => if_neg fun hand => ?_
          have htrue := (exists_open_of_waits hqueue hcovers).mpr ⟨r, hr, hand⟩
          rw [hwaits] at htrue
          cases htrue
        simp [hnone]
  · obtain ⟨r, hfind, hdecided⟩ := h.settled id hid
    obtain rfl : r.id = id := (Table.find?_eq_some.mp hfind).2
    have hcommits : CommitsCampaign db (.creativesMarked d) (d.commit db) := .submit
    have hreview : StoredReview db r r := ⟨hfind, rfl, rfl, rfl⟩
    obtain ⟨r', hstored, hsame⟩ := hcommits.find?_reviews hreview
    obtain rfl := hsame (by simp [CampaignPoint.holds])
    exact ⟨r', hstored.1, hdecided⟩

end Submit

/-! ## Decisions -/

section Decide

variable {db : ModerationDb} {d : DecidedReview} {adSetId : Option Nat} {r : ModerationReview}

theorem isOf_congr (hstored : StoredReview db d.review r) (target : ReviewTarget) :
    r.isOf target = d.review.isOf target := by
  obtain ⟨-, hcampaign, had, hcreative⟩ := hstored
  cases target <;> simp only [ModerationReview.isOf, ModerationReview.ofCampaign, hcampaign, had, hcreative]

/-- A review that is decided does not wait any more. -/
theorem openCount_decide (hstored : StoredReview db d.review r) (hpending : r.decision = .pendingReview)
    (target : ReviewTarget) :
    (d.commit adSetId db).openCount target = db.openCount target - if r.isOf target = true then 1 else 0 := by
  obtain ⟨hr, hid⟩ := Table.find?_eq_some.mp hstored.1
  have hmove := Table.total_updateWhere_row (t := db.reviews) (p := fun x => decide (x.id = d.review.id))
    (f := d.decidedReview) hr (decide_eq_true hid)
    (fun x hx hx' => Table.eq_of_key_eq hx hr ((of_decide_eq_true hx').trans hid.symm))
    (fun r => if r.decision = .pendingReview ∧ r.isOf target = true then 1 else 0) (fun _ => rfl)
  have hafter : (d.decidedReview r).decision ≠ .pendingReview := d.input.decides
  simp only [hpending, hafter, true_and, false_and, if_false, add_zero] at hmove
  exact hmove

/-- What a decision is about has its approval afterwards. -/
theorem approvalOf_decide (target : ReviewTarget) :
    (d.commit adSetId db).approvalOf target =
      (db.approvalOf target).map fun approval =>
        if d.review.isOf target = true then d.input.reviewStatus.approvalStatus else approval := by
  cases target with
  | campaign id =>
    refine (Table.map_find?_updateWhere (p := fun c => d.review.ofCampaign c.id) (f := ModeratedCampaign.moderated _ _)
      (fun _ => rfl) _ id).trans ((Option.map_congr fun c hc => ?_).trans (Option.map_map _ _ _).symm)
    obtain rfl : c.id = id := (Table.find?_eq_some.mp hc).2
    by_cases hof : d.review.ofCampaign c.id = true <;> simp [hof, ModerationReview.isOf, ModeratedCampaign.moderated]
  | ad id =>
    refine (Table.map_find?_updateWhere (p := fun ad => d.review.adId = some ad.id) (f := ModeratedAd.moderated _ _)
      (fun _ => rfl) _ id).trans ((Option.map_congr fun ad had => ?_).trans (Option.map_map _ _ _).symm)
    obtain rfl : ad.id = id := (Table.find?_eq_some.mp had).2
    by_cases hof : d.review.adId = some ad.id <;> simp [hof, ModerationReview.isOf, ModeratedAd.moderated]
  | creative id =>
    refine (Table.map_find?_updateWhere (p := fun creative => d.review.creativeId = some creative.id)
      (f := ModeratedCreative.moderated _ _) (fun _ => rfl) _ id).trans
      ((Option.map_congr fun creative hcreative => ?_).trans (Option.map_map _ _ _).symm)
    obtain rfl : creative.id = id := (Table.find?_eq_some.mp hcreative).2
    by_cases hof : d.review.creativeId = some creative.id <;>
      simp [hof, ModerationReview.isOf, ModeratedCreative.moderated]

/-- **A decision** keeps the books: it found the review waiting. -/
theorem QueueBooks.decide (h : QueueBooks db) (hstored : StoredReview db d.review r)
    (hpending : r.decision = .pendingReview) : QueueBooks (d.commit adSetId db) := by
  obtain ⟨hr, hid⟩ := Table.find?_eq_some.mp hstored.1
  refine ⟨fun target approval happroval => ?_, ?_, fun id hdecided => ?_⟩
  · rw [approvalOf_decide] at happroval
    obtain ⟨before, hbefore, rfl⟩ := Option.map_eq_some_iff.mp happroval
    rw [openCount_decide hstored hpending, ← isOf_congr hstored]
    cases hof : r.isOf target with
    | true =>
      rw [(h.pending_of_open hbefore hr hpending hof).2]
      simp [d.input.reviewStatus.approvalStatus_ne_pending]
    | false => simpa using h.counts target before hbefore
  · refine List.nodup_cons.mpr ⟨fun hmem => ?_, h.once⟩
    obtain ⟨r', hfind, hdecided⟩ := h.settled _ hmem
    obtain rfl : r = r' := Option.some.inj (hstored.1.symm.trans hfind)
    exact hdecided hpending
  · rcases List.mem_cons.mp hdecided with rfl | hdecided
    · refine ⟨_, Table.find?_updateWhere (f := d.decidedReview) (fun _ => rfl) hstored.1, ?_⟩
      split
      · exact d.input.decides
      · rename_i hother
        exact absurd (decide_eq_true hid) hother
    · obtain ⟨r', hfind, hnot⟩ := h.settled id hdecided
      refine ⟨_, Table.find?_updateWhere (f := d.decidedReview) (fun _ => rfl) hfind, ?_⟩
      split
      · exact d.input.decides
      · exact hnot

end Decide

/-! ## Runs -/

/-- **What waits for review can be decided**: in every interleaving of submissions, decisions and changes of status in
which a submission that commits finds waiting the reviews that it read, and the campaign's own among them when one of
them names the campaign, a campaign, an ad or a creative that is pending has one undecided review, and a review is
decided once. -/
theorem queueSound {S : CampaignState}
    (h : (campaignSessions NothingInReview).Reachable (Workers.GoesWhere FindsQueue) S) : QueueSound S.committed := by
  refine QueueBooks.sound (campaigns_keep (I := QueueBooks) (fun _ hinit => .of_nothing hinit) ?_ h).store
  intro db db' p hbooks hp hok hcommits
  cases hcommits with
  | status => exact hbooks.withStatus _ _
  | toggle => exact hbooks.withStatus _ _
  | submit => exact hbooks.submit hp hok
  | decide =>
    obtain ⟨r, hstored, hpending⟩ := hp
    exact hbooks.decide hstored hpending

section Examples

/-- A campaign with an ad. -/
def campaignToReview : ModerationDb where
  advertisers := Table.empty.create fun id => ⟨id, .active, false⟩
  campaigns := Table.empty.create fun id => ⟨⟨id, .draft, "BOB", 10000000, 0⟩, 1, .notSubmitted, none⟩
  adSets := Table.empty.create fun id => ⟨id, 1, .draft⟩
  ads := Table.empty.create fun id => ⟨id, 1, 1, .draft, .notSubmitted⟩
  creatives := Table.empty.create fun id => ⟨id, .draft, .notSubmitted⟩
  reviews := .empty
  decided := []

def submitsCampaign (w : Nat) : List CampaignAct :=
  .start w (.submitCampaign 1 ⟨none, true⟩) :: List.replicate 6 (.go w 1000)

def rejectsReview (w reviewId : Nat) : List CampaignAct :=
  .start w (.decide reviewId ⟨.rejected, "politica", none, true, nofun⟩ 7) :: List.replicate 3 (.go w 1000)

theorem campaignToReview_init : (campaignSessions NothingInReview).init ⟨campaignToReview, []⟩ :=
  ⟨⟨rfl, rfl, by decide, by decide, by decide⟩, rfl⟩

/-- It is submitted, rejected altogether and submitted again. -/
theorem queueSound_of_turns :
    let S := (campaignSessions NothingInReview).afterIf (Workers.GoesWhere FindsQueue) ⟨campaignToReview, []⟩
      (submitsCampaign 0 ++ rejectsReview 1 1 ++ rejectsReview 2 2 ++ rejectsReview 3 3 ++ submitsCampaign 4)
    S.committed.decided = [3, 2, 1] ∧ S.committed.reviews.rows.length = 6 ∧ QueueSound S.committed :=
  ⟨by decide, by decide, queueSound ((campaignSessions NothingInReview).reachable_afterIf
    (Workers.GoesWhere FindsQueue) campaignToReview_init _)⟩

/-- One request after another: the campaign is rejected and submitted again while the review of its ad waits.  It is
pending, and there is no review of it to decide. -/
theorem queueSound_counterexample :
    ∃ S, (campaignSessions NothingInReview).Reachable (fun _ _ => True) S ∧ S.active = [] ∧
      (∃ c, c ∈ S.committed.campaigns.rows ∧ c.approvalStatus = .pending ∧
        S.committed.openReviews (.campaign c.id) = []) ∧ ¬QueueSound S.committed := by
  have hstuck : ∃ c, c ∈ ((campaignSessions NothingInReview).after ⟨campaignToReview, []⟩
      (submitsCampaign 0 ++ rejectsReview 1 1 ++ submitsCampaign 2)).committed.campaigns.rows ∧
      c.approvalStatus = .pending ∧ ((campaignSessions NothingInReview).after ⟨campaignToReview, []⟩
        (submitsCampaign 0 ++ rejectsReview 1 1 ++ submitsCampaign 2)).committed.openReviews (.campaign c.id) = [] :=
    ⟨⟨⟨1, .pendingReview, "BOB", 10000000, 0⟩, 1, .pending, none⟩, by decide, rfl, by decide⟩
  refine ⟨_, (campaignSessions NothingInReview).reachable_after campaignToReview_init _, by decide, hstuck,
    fun h => ?_⟩
  obtain ⟨c, hc, hpending, hnone⟩ := hstuck
  have hone := h.campaigns c hc hpending
  rw [hnone] at hone
  cases hone

end Examples

end AtlasErp
