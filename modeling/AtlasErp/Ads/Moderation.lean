import AtlasErp.Ads.Model
import AtlasErp.Lib.Checked
import AtlasErp.Lib.Workers

/-! # Advertising: the status and the moderation of a campaign

Four requests write a campaign: the console sets its status, the portal turns it on and off, a submission sends it to
moderation, and a moderator decides a review.  Only the portal locks the campaign before it looks at it.

- `assertCampaignTransition`: the check that the console and the portal share;
- `CampaignSubmission`, `DecidedReview`: what a submission and a decision write;
- `campaignWorkers`, `campaignSessions`: the requests, and their interleavings;
- `next_cases`: all that a request does to the tables;
- `CampaignPoint.Relies`, `campaigns_promise`: what a request relies on, whatever the others do. -/

namespace AtlasErp

open Lib

/-! ## The tables -/

/-- `approvalStatuses`. -/
inductive AdApprovalStatus where
  | notSubmitted
  | pending
  | approved
  | rejected
  | changesRequested
  deriving DecidableEq

/-- `moderationDecisions`. -/
inductive ModerationDecision where
  | pendingReview
  | approved
  | rejected
  | changesRequested
  | escalated
  deriving DecidableEq

/-- `advertiserStatuses`. -/
inductive AdvertiserStatus where
  | pendingReview
  | active
  | suspended
  | rejected
  deriving DecidableEq

def AdvertiserStatus.text : AdvertiserStatus → String
  | .pendingReview => "PENDING_REVIEW"
  | .active => "ACTIVE"
  | .suspended => "SUSPENDED"
  | .rejected => "REJECTED"

/-- What the portal reads of an advertiser.  `isBlocked` says that its risk status is `BLOCKED`. -/
structure DeliveringAdvertiser where
  id : Nat
  status : AdvertiserStatus
  isBlocked : Bool
  deriving DecidableEq

/-- A row of `ad_campaigns`, with what moderation writes. -/
structure ModeratedCampaign extends AdCampaign where
  advertiserId : Nat
  approvalStatus : AdApprovalStatus
  endsAt : Option Instant
  deriving DecidableEq

/-- What moderation reads and writes of a row of `ad_ad_sets`. -/
structure ModeratedAdSet where
  id : Nat
  campaignId : Nat
  status : CampaignStatus
  deriving DecidableEq

/-- What moderation reads and writes of a row of `ad_ads`. -/
structure ModeratedAd where
  id : Nat
  adSetId : Nat
  creativeId : Nat
  status : CampaignStatus
  approvalStatus : AdApprovalStatus
  deriving DecidableEq

/-- What moderation writes of a row of `ad_creatives`. -/
structure ModeratedCreative where
  id : Nat
  status : CampaignStatus
  policyReviewStatus : AdApprovalStatus
  deriving DecidableEq

/-- A row of `ad_moderation_reviews`. -/
structure ModerationReview where
  id : Nat
  advertiserId : Nat
  campaignId : Option Nat
  adId : Option Nat
  creativeId : Option Nat
  reviewerUserId : Option UserId
  decision : ModerationDecision
  reasonCode : Option String
  notes : Option String
  requiresAdvertiserChanges : Bool
  deriving DecidableEq

/-- A campaign in another status. -/
def ModeratedCampaign.inStatus (status : CampaignStatus) (c : ModeratedCampaign) : ModeratedCampaign :=
  { c with toAdCampaign := { c.toAdCampaign with status } }

/-- A campaign with another approval and status; and so an ad, and a creative. -/
def ModeratedCampaign.moderated (approvalStatus : AdApprovalStatus) (status : CampaignStatus) (c : ModeratedCampaign) :
    ModeratedCampaign :=
  { c with toAdCampaign := { c.toAdCampaign with status }, approvalStatus }

def ModeratedAd.moderated (approvalStatus : AdApprovalStatus) (status : CampaignStatus) (ad : ModeratedAd) :
    ModeratedAd :=
  { ad with approvalStatus, status }

def ModeratedCreative.moderated (approvalStatus : AdApprovalStatus) (status : CampaignStatus)
    (creative : ModeratedCreative) : ModeratedCreative :=
  { creative with policyReviewStatus := approvalStatus, status }

instance : HasKey DeliveringAdvertiser := ⟨(·.id), fun k r => { r with id := k }, fun _ _ => rfl, fun _ => rfl⟩
instance : HasKey ModeratedCampaign := ⟨(·.id), fun k r => { r with id := k }, fun _ _ => rfl, fun _ => rfl⟩
instance : HasKey ModeratedAdSet := ⟨(·.id), fun k r => { r with id := k }, fun _ _ => rfl, fun _ => rfl⟩
instance : HasKey ModeratedAd := ⟨(·.id), fun k r => { r with id := k }, fun _ _ => rfl, fun _ => rfl⟩
instance : HasKey ModeratedCreative := ⟨(·.id), fun k r => { r with id := k }, fun _ _ => rfl, fun _ => rfl⟩
instance : HasKey ModerationReview := ⟨(·.id), fun k r => { r with id := k }, fun _ _ => rfl, fun _ => rfl⟩

structure ModerationDb where
  advertisers : Table DeliveringAdvertiser
  campaigns : Table ModeratedCampaign
  adSets : Table ModeratedAdSet
  ads : Table ModeratedAd
  creatives : Table ModeratedCreative
  reviews : Table ModerationReview
  /-- History, not a table: the reviews that were decided, in order. -/
  decided : List Nat
  deriving DecidableEq

/-! ## The status of a campaign -/

/-- `TERMINAL_CAMPAIGN_STATUSES`. -/
def CampaignStatus.isTerminal (status : CampaignStatus) : Bool := status = .ended || status = .archived

def assertCampaignTransition (currentStatus : CampaignStatus) (approvalStatus : AdApprovalStatus)
    (nextStatus : CampaignStatus) : Except HttpError Unit := do
  failIf (currentStatus.isTerminal = true ∧ nextStatus = .active) (conflict "INVALID_CAMPAIGN_TRANSITION"
    "No se puede reactivar una campaña finalizada o archivada.")
  failIf (nextStatus = .active ∧ approvalStatus ≠ .approved) (conflict "CAMPAIGN_NOT_APPROVED"
    "No se puede activar una campaña sin aprobación de moderación.")

theorem assertCampaignTransition_eq_ok {currentStatus nextStatus : CampaignStatus} {approvalStatus : AdApprovalStatus}
    (h : assertCampaignTransition currentStatus approvalStatus nextStatus = .ok ()) (hnext : nextStatus = .active) :
    currentStatus.isTerminal = false ∧ approvalStatus = .approved := by
  obtain ⟨hterminal, h⟩ := failIf_bind_eq_ok.mp h
  have happroved := failIf_eq_ok.mp h
  refine ⟨?_, by_contra fun hne => happroved ⟨hnext, hne⟩⟩
  cases hcurrent : currentStatus.isTerminal with
  | false => rfl
  | true => exact absurd ⟨hcurrent, hnext⟩ hterminal

/-- `PORTAL_TOGGLEABLE_CAMPAIGN_STATUSES`. -/
inductive ToggleStatus where
  | active
  | paused
  deriving DecidableEq

def ToggleStatus.status : ToggleStatus → CampaignStatus
  | .active => .active
  | .paused => .paused

def ModeratedCampaign.isToggleable (campaign : ModeratedCampaign) : Bool :=
  campaign.status = .active || campaign.status = .paused

def assertAdvertiserCanDeliver (advertiser : Option DeliveringAdvertiser) : Except HttpError Unit :=
  match advertiser with
  | none => .error ⟨.notFound, some "ADVERTISER_NOT_FOUND", "El anunciante de la campaña no existe."⟩
  | some advertiser =>
    if advertiser.status ≠ .active then .error (forbidden "ADVERTISER_NOT_ACTIVE"
      ("El anunciante está en estado " ++ advertiser.status.text ++ " y no puede operar campañas."))
    else if advertiser.isBlocked then .error (forbidden "ADVERTISER_RISK_BLOCKED"
      "El anunciante está bloqueado por riesgo. Contacta a tu ejecutivo comercial.")
    else .ok ()

def assertCampaignCanResume (campaign : ModeratedCampaign) (now : Instant) : Except HttpError Unit := do
  failIf (0 < campaign.budgetTotalMicros ∧ campaign.budgetTotalMicros ≤ campaign.spendTotalMicros)
    (conflict "CAMPAIGN_BUDGET_EXHAUSTED" "La campaña agotó su presupuesto total y no puede reactivarse.")
  failIf (∃ endsAt ∈ campaign.endsAt, endsAt ≤ now) (conflict "CAMPAIGN_SCHEDULE_EXPIRED"
    "La campaña terminó su ventana de vigencia y no puede reactivarse.")

/-- The checks of the portal, on the campaign that it locked.  An internal operator has no list of advertisers. -/
def checkPortalToggle (db : ModerationDb) (advertiserIds : Option (List Nat)) (campaign : ModeratedCampaign)
    (input : ToggleStatus) (now : Instant) : Except HttpError Unit := do
  failIf (¬(advertiserIds.all (campaign.advertiserId ∈ ·))) (forbidden "ADVERTISER_FORBIDDEN"
    "No tienes permiso para operar este anunciante.")
  assertAdvertiserCanDeliver (db.advertisers.find? campaign.advertiserId)
  failIf (campaign.isToggleable = false) (conflict "CAMPAIGN_NOT_TOGGLEABLE"
    "Solo se pueden prender/apagar campañas ya lanzadas (activas o pausadas).")
  assertCampaignTransition campaign.status campaign.approvalStatus input.status
  if input = .active then assertCampaignCanResume campaign now else .ok ()

theorem checkPortalToggle_eq_ok {db : ModerationDb} {advertiserIds : Option (List Nat)} {campaign : ModeratedCampaign}
    {input : ToggleStatus} {now : Instant} (h : checkPortalToggle db advertiserIds campaign input now = .ok ()) :
    campaign.isToggleable = true ∧
      assertCampaignTransition campaign.status campaign.approvalStatus input.status = .ok () := by
  obtain ⟨-, h⟩ := failIf_bind_eq_ok.mp h
  obtain ⟨⟨⟩, -, h⟩ := bind_eq_ok.mp h
  obtain ⟨htoggleable, h⟩ := failIf_bind_eq_ok.mp h
  obtain ⟨⟨⟩, htransition, -⟩ := bind_eq_ok.mp h
  exact ⟨by simpa using htoggleable, htransition⟩

/-! ## Submissions -/

/-- A body that passed `submitCampaignForReviewSchema`. -/
structure SubmitCampaignDto where
  notes : Option String
  includeAds : Bool
  deriving DecidableEq

section Queries

variable (db : ModerationDb)

/-- The ads of a campaign, through their ad sets. -/
def findAdsOfCampaign (campaignId : Nat) : List ModeratedAd :=
  db.ads.rowsWhere fun ad => (db.adSets.find? ad.adSetId).any (·.campaignId = campaignId)

/-- The reviews that wait for the campaign, for the ads or for the creatives.  One of an ad or of a creative also names
the campaign that it was submitted with. -/
def findPendingReviews (campaignId : Nat) (adIds creativeIds : List Nat) : List ModerationReview :=
  db.reviews.rowsWhere fun r => r.decision = .pendingReview ∧
    (r.campaignId = some campaignId ∨ (∃ adId ∈ r.adId, adId ∈ adIds) ∨
      ∃ creativeId ∈ r.creativeId, creativeId ∈ creativeIds)

end Queries

/-- A submission, with what it read. -/
structure CampaignSubmission where
  campaign : ModeratedCampaign
  input : SubmitCampaignDto
  ads : List ModeratedAd
  yaPendientes : List ModerationReview
  deriving DecidableEq

namespace CampaignSubmission

variable (d : CampaignSubmission)

def adIds : List Nat := d.ads.map (·.id)

def creativeIds : List Nat := (d.ads.map (·.creativeId)).dedup

/-- `conRevision.campana`. -/
def campana : Bool := d.yaPendientes.any (·.campaignId = some d.campaign.id)

/-- `conRevision.anuncios`. -/
def anuncios (adId : Nat) : Bool := d.yaPendientes.any (·.adId = some adId)

/-- `conRevision.creatividades`. -/
def creatividades (creativeId : Nat) : Bool := d.yaPendientes.any (·.creativeId = some creativeId)

/-- A review to create: of an ad, of a creative or, of neither, of the campaign. -/
structure Pending where
  adId : Option Nat
  creativeId : Option Nat
  notes : Option String
  deriving DecidableEq

/-- The reviews to create. -/
def pendientes : List Pending :=
  (if d.campana then [] else [⟨none, none, d.input.notes⟩]) ++
    ((d.adIds.filter fun adId => !d.anuncios adId).map fun adId => ⟨some adId, none, none⟩) ++
    (d.creativeIds.filter fun creativeId => !d.creatividades creativeId).map fun creativeId =>
      ⟨none, some creativeId, none⟩

/-- The row of a review that waits. -/
def row (pending : Pending) (id : Nat) : ModerationReview :=
  ⟨id, d.campaign.advertiserId, some d.campaign.id, pending.adId, pending.creativeId, none, .pendingReview, none,
    pending.notes, false⟩

/-- `createPendingReviews` and `markSubmittedForReview`. -/
def commit (db : ModerationDb) : ModerationDb :=
  { db with
    reviews := d.pendientes.foldl (fun reviews pending => reviews.create (d.row pending)) db.reviews
    campaigns := db.campaigns.updateWhere (·.id = d.campaign.id) (.moderated .pending .pendingReview)
    ads := db.ads.updateWhere (·.id ∈ d.adIds) (.moderated .pending .pendingReview)
    creatives := db.creatives.updateWhere (·.id ∈ d.creativeIds) (.moderated .pending .pendingReview) }

end CampaignSubmission

/-- The checks of a submission, on the campaign as it was read. -/
def checkSubmission (campaign : ModeratedCampaign) : Except HttpError Unit := do
  failIf (campaign.status.isTerminal = true) (conflict "CAMPAIGN_IS_TERMINAL"
    "Una campaña finalizada o archivada ya no puede enviarse a revisión.")
  failIf (campaign.approvalStatus = .pending) (conflict "CAMPAIGN_ALREADY_IN_REVIEW"
    "La campaña ya está en la cola de moderación.")

/-- The check on its ads. -/
def checkHasAds (input : SubmitCampaignDto) (ads : List ModeratedAd) : Except HttpError Unit :=
  failIf (input.includeAds = true ∧ ads = []) (conflict "CAMPAIGN_HAS_NO_ADS"
    ("La campaña no tiene anuncios: apruébala y seguirá sin poder entregarse. " ++
      "Crea al menos un anuncio antes de enviarla."))

/-! ## Decisions -/

/-- A body that passed `moderationDecisionSchema`. -/
structure ModerationDecisionDto where
  reviewStatus : ModerationDecision
  reasonCode : String
  notes : Option String
  requiresAdvertiserChanges : Bool
  decides : reviewStatus ≠ .pendingReview
  deriving DecidableEq

namespace ModerationDecision

variable (decision : ModerationDecision)

/-- The approval that a decision leaves on what it is about. -/
def approvalStatus : AdApprovalStatus :=
  match decision with
  | .approved => .approved
  | .rejected => .rejected
  | _ => .changesRequested

def entityStatus : CampaignStatus :=
  match decision with
  | .approved => .approved
  | .rejected => .rejected
  | _ => .pendingReview

/-- An ad or a creative that is approved can be served. -/
def servibleTrasAprobar : CampaignStatus := if decision = .approved then .active else decision.entityStatus

theorem approvalStatus_ne_pending : decision.approvalStatus ≠ .pending := by cases decision <;> exact nofun

theorem entityStatus_ne_active : decision.entityStatus ≠ .active := by cases decision <;> exact nofun

theorem entityStatus_not_terminal : decision.entityStatus.isTerminal = false := by cases decision <;> rfl

end ModerationDecision

/-- A decision, with the review as it was read. -/
structure DecidedReview where
  review : ModerationReview
  input : ModerationDecisionDto
  reviewerUserId : UserId
  deriving DecidableEq

/-- The review of a campaign itself: of no ad and no creative. -/
def ModerationReview.ofCampaign (r : ModerationReview) (campaignId : Nat) : Bool :=
  r.campaignId = some campaignId && r.adId.isNone && r.creativeId.isNone

namespace DecidedReview

variable (d : DecidedReview)

/-- `updateReviewDecision`, on a row. -/
def decidedReview (r : ModerationReview) : ModerationReview :=
  { r with
    decision := d.input.reviewStatus
    reasonCode := some d.input.reasonCode
    notes := d.input.notes
    reviewerUserId := some d.reviewerUserId
    requiresAdvertiserChanges := d.input.requiresAdvertiserChanges }

/-- The ad set that is activated: that of an ad that is approved. -/
def adSetId (db : ModerationDb) : Option Nat :=
  if d.input.reviewStatus = .approved then (d.review.adId.bind db.ads.find?).map (·.adSetId) else none

/-- `updateReviewDecision` and `applyDecisionToTargets`, with the ad set that was found. -/
def commit (adSetId : Option Nat) (db : ModerationDb) : ModerationDb :=
  { db with
    reviews := db.reviews.updateWhere (·.id = d.review.id) d.decidedReview
    campaigns := db.campaigns.updateWhere (fun c => d.review.ofCampaign c.id)
      (.moderated d.input.reviewStatus.approvalStatus d.input.reviewStatus.entityStatus)
    ads := db.ads.updateWhere (fun ad => d.review.adId = some ad.id)
      (.moderated d.input.reviewStatus.approvalStatus d.input.reviewStatus.servibleTrasAprobar)
    adSets := db.adSets.updateWhere (fun adSet => adSetId = some adSet.id) fun adSet =>
      { adSet with status := .active }
    creatives := db.creatives.updateWhere (fun creative => d.review.creativeId = some creative.id)
      (.moderated d.input.reviewStatus.approvalStatus d.input.reviewStatus.servibleTrasAprobar)
    decided := d.review.id :: db.decided }

end DecidedReview

/-! ## Requests that interleave -/

inductive CampaignRequest where
  | updateCampaignStatus (campaignId : Nat) (status : CampaignStatus)
  | setCampaignStatus (campaignId : Nat) (input : ToggleStatus) (advertiserIds : Option (List Nat))
  | submitCampaign (campaignId : Nat) (input : SubmitCampaignDto)
  | decide (reviewId : Nat) (input : ModerationDecisionDto) (reviewerUserId : UserId)
  deriving DecidableEq

/-- Where a request is, with the copies it holds. -/
inductive CampaignPoint where
  /-- The console checked the transition. -/
  | transitionChecked (campaignId : Nat) (status : CampaignStatus)
  /-- `updateById` read the campaign again, and its `UPDATE` has the row. -/
  | statusWritten (entity : ModeratedCampaign) (status : CampaignStatus)
  /-- The portal read the campaign with a lock. -/
  | campaignLocked (campaign : ModeratedCampaign) (input : ToggleStatus) (advertiserIds : Option (List Nat))
  | toggled (campaign : ModeratedCampaign) (input : ToggleStatus)
  | submitting (campaign : ModeratedCampaign) (input : SubmitCampaignDto)
  | adsRead (campaign : ModeratedCampaign) (input : SubmitCampaignDto) (ads : List ModeratedAd)
  | queueRead (d : CampaignSubmission)
  /-- The campaign is marked, then its ads, then the creatives. -/
  | campaignMarked (d : CampaignSubmission)
  | adsMarked (d : CampaignSubmission)
  | creativesMarked (d : CampaignSubmission)
  | deciding (d : DecidedReview)
  /-- The conditional `UPDATE` found the review waiting. -/
  | reviewDecided (d : DecidedReview)
  /-- The rows that the review is about are written. -/
  | targetsWritten (d : DecidedReview) (adSetId : Option Nat)
  deriving DecidableEq

inductive CampaignLock where
  | campaign (id : Nat)
  | adSet (id : Nat)
  | ad (id : Nat)
  | creative (id : Nat)
  | review (id : Nat)
  deriving DecidableEq

namespace CampaignPoint

def holds : CampaignPoint → List CampaignLock
  | .statusWritten entity status => if entity.status = status then [] else [.campaign entity.id]
  | .campaignLocked campaign _ _ | .toggled campaign _ => [.campaign campaign.id]
  | .campaignMarked d => [.campaign d.campaign.id]
  | .adsMarked d => .campaign d.campaign.id :: d.adIds.map .ad
  | .creativesMarked d => .campaign d.campaign.id :: (d.adIds.map .ad ++ d.creativeIds.map .creative)
  | .reviewDecided d => [.review d.review.id]
  | .targetsWritten d adSetId =>
    .review d.review.id :: ((if d.review.adId.isNone && d.review.creativeId.isNone then
      d.review.campaignId.toList.map .campaign else []) ++ d.review.adId.toList.map .ad ++
      adSetId.toList.map .adSet ++ d.review.creativeId.toList.map .creative)
  | _ => []

/-- `campaign.update({ status })` writes what differs from the campaign as it was read. -/
def withStatus (db : ModerationDb) (entity : ModeratedCampaign) (status : CampaignStatus) : ModerationDb :=
  if entity.status = status then db
  else { db with campaigns := db.campaigns.updateWhere (·.id = entity.id) (.inStatus status) }

/-- What a request does next, at an instant; an error ends it without a trace. -/
def next : CampaignPoint → Instant → ModerationDb → Option (ModerationDb × Option CampaignPoint)
  | .transitionChecked campaignId status, _, db =>
    some (db, (db.campaigns.find? campaignId).map fun entity => .statusWritten entity status)
  | .statusWritten entity status, _, db => some (withStatus db entity status, none)
  | .campaignLocked campaign input advertiserIds, now, db =>
    match checkPortalToggle db advertiserIds campaign input now with
    | .error _ => some (db, none)
    | .ok _ => if campaign.status = input.status then some (db, none) else some (db, some (.toggled campaign input))
  | .toggled campaign input, _, db => some (withStatus db campaign input.status, none)
  | .submitting campaign input, _, db =>
    let ads := if input.includeAds then findAdsOfCampaign db campaign.id else []
    match checkHasAds input ads with
    | .error _ => some (db, none)
    | .ok _ => some (db, some (.adsRead campaign input ads))
  | .adsRead campaign input ads, _, db =>
    some (db, some (.queueRead ⟨campaign, input, ads,
      findPendingReviews db campaign.id (ads.map (·.id)) (ads.map (·.creativeId)).dedup⟩))
  | .queueRead d, _, db => some (db, some (.campaignMarked d))
  | .campaignMarked d, _, db => some (db, some (.adsMarked d))
  | .adsMarked d, _, db => some (db, some (.creativesMarked d))
  | .creativesMarked d, _, db => some (d.commit db, none)
  | .deciding d, _, db =>
    if (db.reviews.find? d.review.id).any (·.decision = .pendingReview) then some (db, some (.reviewDecided d))
    else some (db, none)
  | .reviewDecided d, _, db => some (db, some (.targetsWritten d (d.adSetId db)))
  | .targetsWritten d adSetId, _, db => some (d.commit adSetId db, none)

end CampaignPoint

/-- `MODERATION_REVIEW_ALREADY_DECIDED`. -/
def reviewAlreadyDecided : HttpError := conflict "MODERATION_REVIEW_ALREADY_DECIDED"
  "No se puede modificar una revisión ya decidida; se debe crear una nueva revisión."

def campaignNotFound (message : String) : HttpError := ⟨.notFound, some "CAMPAIGN_NOT_FOUND", message⟩

/-- The first read of a request, and what it checks there. -/
def CampaignRequest.start (db : ModerationDb) : CampaignRequest → Except HttpError CampaignPoint
  | .updateCampaignStatus campaignId status => do
    let campaign ← orFail (db.campaigns.find? campaignId) (campaignNotFound "La campaña no existe.")
    assertCampaignTransition campaign.status campaign.approvalStatus status
    return .transitionChecked campaignId status
  | .setCampaignStatus campaignId input advertiserIds => do
    let campaign ← orFail (db.campaigns.find? campaignId) (campaignNotFound "Campaña no encontrada.")
    return .campaignLocked campaign input advertiserIds
  | .submitCampaign campaignId input => do
    let campaign ← orFail (db.campaigns.find? campaignId) (campaignNotFound "La campaña no existe.")
    checkSubmission campaign
    return .submitting campaign input
  | .decide reviewId input reviewerUserId => do
    let review ← orFail (db.reviews.find? reviewId)
      ⟨.notFound, some "MODERATION_REVIEW_NOT_FOUND", "La revisión no existe."⟩
    failIf (review.decision ≠ .pendingReview) reviewAlreadyDecided
    return .deciding ⟨review, input, reviewerUserId⟩

/-- The requests as workers; nothing else writes these tables. -/
def campaignWorkers : Workers ModerationDb CampaignRequest Instant Empty CampaignLock CampaignPoint where
  start request db := (request.start db).toOption
  holds := CampaignPoint.holds
  next := CampaignPoint.next
  outside event _ := event.elim

abbrev CampaignState := Sessions ModerationDb CampaignPoint

abbrev CampaignAct := WorkerAct CampaignRequest Instant Empty

/-- Any interleaving of the requests, from given tables. -/
def campaignSessions (init : ModerationDb → Prop) : Machine CampaignState CampaignAct := campaignWorkers.machine init

/-! ## What a request does -/

/-- The writes of a request, at the point where it commits. -/
inductive CommitsCampaign (db : ModerationDb) : CampaignPoint → ModerationDb → Prop where
  | status {entity status} :
      CommitsCampaign db (.statusWritten entity status) (CampaignPoint.withStatus db entity status)
  | toggle {campaign input} :
      CommitsCampaign db (.toggled campaign input) (CampaignPoint.withStatus db campaign input.status)
  | submit {d} : CommitsCampaign db (.creativesMarked d) (d.commit db)
  | decide {d adSetId} : CommitsCampaign db (.targetsWritten d adSetId) (d.commit adSetId db)

/-- **All that a request does next**: it leads on and writes nothing, or it commits. -/
theorem CampaignPoint.next_cases {p : CampaignPoint} {now : Instant} {db db' : ModerationDb} {q : Option CampaignPoint}
    (h : p.next now db = some (db', q)) : db' = db ∨ q = none ∧ CommitsCampaign db p db' := by
  cases p with
  | statusWritten =>
    obtain ⟨rfl, rfl⟩ := Prod.mk.inj (Option.some.inj h)
    exact .inr ⟨rfl, .status⟩
  | toggled =>
    obtain ⟨rfl, rfl⟩ := Prod.mk.inj (Option.some.inj h)
    exact .inr ⟨rfl, .toggle⟩
  | creativesMarked =>
    obtain ⟨rfl, rfl⟩ := Prod.mk.inj (Option.some.inj h)
    exact .inr ⟨rfl, .submit⟩
  | targetsWritten =>
    obtain ⟨rfl, rfl⟩ := Prod.mk.inj (Option.some.inj h)
    exact .inr ⟨rfl, .decide⟩
  | campaignLocked =>
    simp only [CampaignPoint.next] at h
    left
    split at h
    · exact (Prod.mk.inj (Option.some.inj h)).1.symm
    · split at h <;> exact (Prod.mk.inj (Option.some.inj h)).1.symm
  | submitting | deciding =>
    simp only [CampaignPoint.next] at h
    left
    split at h <;> exact (Prod.mk.inj (Option.some.inj h)).1.symm
  | _ => exact .inl (Prod.mk.inj (Option.some.inj h)).1.symm

/-! ## What a request relies on -/

/-- The review that was read is there, with what it is about. -/
def StoredReview (db : ModerationDb) (review r : ModerationReview) : Prop :=
  db.reviews.find? review.id = some r ∧ r.campaignId = review.campaignId ∧ r.adId = review.adId ∧
    r.creativeId = review.creativeId

/-- What a request relies on at each point: a campaign that it locked, ads that it read once, and the review that it
decides. -/
def CampaignPoint.Relies : CampaignPoint → ModerationDb → Prop
  | .campaignLocked campaign _ _, db => db.campaigns.find? campaign.id = some campaign
  | .toggled campaign input, db => db.campaigns.find? campaign.id = some campaign ∧ campaign.isToggleable = true ∧
      assertCampaignTransition campaign.status campaign.approvalStatus input.status = .ok ()
  | .adsRead _ _ ads, _ => (ads.map (·.id)).Nodup
  | .queueRead d, _ | .campaignMarked d, _ | .adsMarked d, _ | .creativesMarked d, _ => d.adIds.Nodup
  | .deciding d, db => ∃ r, StoredReview db d.review r
  | .reviewDecided d, db | .targetsWritten d _, db => ∃ r, StoredReview db d.review r ∧ r.decision = .pendingReview
  | _, _ => True

section Frame

variable {db db' : ModerationDb} {p : CampaignPoint}

/-- A campaign that a request has no lock of stays as it is. -/
theorem CommitsCampaign.find?_campaigns (h : CommitsCampaign db p db') {id : Nat} (hfree : .campaign id ∉ p.holds) :
    db'.campaigns.find? id = db.campaigns.find? id := by
  have hkeep : ∀ (cond : ModeratedCampaign → Bool) (f : ModeratedCampaign → ModeratedCampaign),
      (∀ c, (f c).id = c.id) → (∀ c, c.id = id → cond c = false) →
      (db.campaigns.updateWhere cond f).find? id = db.campaigns.find? id := by
    intro cond f hf hcond
    rw [Table.find?_updateWhere_map hf]
    cases hfind : db.campaigns.find? id with
    | none => rfl
    | some c => simp [hcond c (Table.find?_eq_some.mp hfind).2]
  cases h with
  | status =>
    unfold CampaignPoint.withStatus
    split
    · rfl
    · rename_i hchanges
      refine hkeep _ _ (fun _ => rfl) fun c hc => decide_eq_false fun heq => hfree ?_
      simp [CampaignPoint.holds, hchanges, ← hc, heq]
  | toggle =>
    unfold CampaignPoint.withStatus
    split
    · rfl
    · refine hkeep _ _ (fun _ => rfl) fun c hc => decide_eq_false fun heq => hfree ?_
      simp [CampaignPoint.holds, ← hc, heq]
  | submit =>
    refine hkeep _ _ (fun _ => rfl) fun c hc => decide_eq_false fun heq => hfree ?_
    simp [CampaignPoint.holds, ← hc, heq]
  | @decide d adSetId =>
    refine hkeep (fun c => d.review.ofCampaign c.id) _ (fun _ => rfl) fun c hc => ?_
    by_contra hof
    refine hfree ?_
    simp only [ModerationReview.ofCampaign, Bool.not_eq_false, Bool.and_eq_true, decide_eq_true_eq] at hof
    simp [CampaignPoint.holds, hof, hc]

/-- A review stays about what it is, and as it is for a request that has no lock of it. -/
theorem CommitsCampaign.find?_reviews (h : CommitsCampaign db p db') {review r : ModerationReview}
    (hstored : StoredReview db review r) :
    ∃ r', StoredReview db' review r' ∧ (.review review.id ∉ p.holds → r' = r) := by
  obtain ⟨hfind, hcampaign, had, hcreative⟩ := hstored
  cases h with
  | status | toggle =>
    refine ⟨r, ⟨?_, hcampaign, had, hcreative⟩, fun _ => rfl⟩
    unfold CampaignPoint.withStatus
    split <;> exact hfind
  | @submit d =>
    refine ⟨r, ⟨?_, hcampaign, had, hcreative⟩, fun _ => rfl⟩
    have hrows : ∀ (rows : List CampaignSubmission.Pending) (t : Table ModerationReview),
        t.find? review.id = some r →
        (rows.foldl (fun reviews pending => reviews.create (d.row pending)) t).find? review.id = some r := by
      intro rows
      induction rows with
      | nil => exact fun _ h => h
      | cons pending rows ih => exact fun t ht => ih _ (Table.find?_create (fun _ => rfl) ht)
    exact hrows d.pendientes db.reviews hfind
  | @decide d adSetId =>
    refine ⟨_, ⟨Table.find?_updateWhere (f := d.decidedReview) (fun _ => rfl) hfind, ?_⟩, fun hfree => if_neg ?_⟩
    · split <;> exact ⟨hcampaign, had, hcreative⟩
    · have hid : r.id = review.id := (Table.find?_eq_some.mp hfind).2
      simp only [CampaignPoint.holds, List.mem_cons, not_or] at hfree
      rw [decide_eq_true_eq, hid]
      exact fun heq => hfree.1 (congrArg CampaignLock.review heq)

/-- What a request relies on stays, whatever another one commits: it holds the locks of what it locked. -/
theorem CampaignPoint.Relies.onward {p' : CampaignPoint} (h : p'.Relies db) (hcommits : CommitsCampaign db p db')
    (hlocks : ∀ k ∈ p'.holds, k ∉ p.holds) : p'.Relies db' := by
  cases p' with
  | campaignLocked campaign =>
    exact (hcommits.find?_campaigns (hlocks _ List.mem_cons_self)).trans h
  | toggled campaign =>
    exact ⟨(hcommits.find?_campaigns (hlocks _ List.mem_cons_self)).trans h.1, h.2⟩
  | deciding d =>
    obtain ⟨r, hr⟩ := h
    obtain ⟨r', hr', -⟩ := hcommits.find?_reviews hr
    exact ⟨r', hr'⟩
  | reviewDecided d | targetsWritten d =>
    obtain ⟨r, hr, hpending⟩ := h
    obtain ⟨r', hr', hsame⟩ := hcommits.find?_reviews hr
    obtain rfl := hsame (hlocks _ List.mem_cons_self)
    exact ⟨r', hr', hpending⟩
  | adsRead | queueRead | campaignMarked | adsMarked | creativesMarked => exact h
  | transitionChecked | statusWritten | submitting => trivial

/-- What a request reaches, it may rely on. -/
theorem CampaignPoint.Relies.next {now : Instant} {q : CampaignPoint} (h : p.Relies db)
    (hnext : p.next now db = some (db', some q)) : q.Relies db := by
  cases p with
  | transitionChecked campaignId status =>
    obtain ⟨-, hq⟩ := Prod.mk.inj (Option.some.inj hnext)
    obtain ⟨entity, -, rfl⟩ := Option.map_eq_some_iff.mp hq
    trivial
  | campaignLocked campaign input advertiserIds =>
    simp only [CampaignPoint.next] at hnext
    split at hnext
    · cases (Prod.mk.inj (Option.some.inj hnext)).2
    · rename_i hcheck
      split at hnext
      · cases (Prod.mk.inj (Option.some.inj hnext)).2
      · obtain rfl := Option.some.inj (Prod.mk.inj (Option.some.inj hnext)).2
        exact ⟨h, checkPortalToggle_eq_ok hcheck⟩
  | submitting campaign input =>
    simp only [CampaignPoint.next] at hnext
    split at hnext
    · cases (Prod.mk.inj (Option.some.inj hnext)).2
    · obtain rfl := Option.some.inj (Prod.mk.inj (Option.some.inj hnext)).2
      simp only [CampaignPoint.Relies]
      split
      · exact db.ads.nodup.sublist (List.filter_sublist.map _)
      · exact List.nodup_nil
  | deciding d =>
    simp only [CampaignPoint.next] at hnext
    split at hnext
    · rename_i hpending
      obtain rfl := Option.some.inj (Prod.mk.inj (Option.some.inj hnext)).2
      obtain ⟨r, hr⟩ := h
      rw [hr.1] at hpending
      exact ⟨r, hr, by simpa using hpending⟩
    · cases (Prod.mk.inj (Option.some.inj hnext)).2
  | adsRead | queueRead | campaignMarked | adsMarked | reviewDecided =>
    obtain rfl := Option.some.inj (Prod.mk.inj (Option.some.inj hnext)).2
    exact h
  | statusWritten | toggled | creativesMarked | targetsWritten => cases (Prod.mk.inj (Option.some.inj hnext)).2

theorem CampaignPoint.Relies.start {request : CampaignRequest} (h : request.start db = .ok p) : p.Relies db := by
  cases request with
  | updateCampaignStatus campaignId status =>
    obtain ⟨campaign, -, h⟩ := orFail_bind_eq_ok.mp h
    obtain ⟨⟨⟩, -, h⟩ := bind_eq_ok.mp h
    obtain rfl := Except.ok.inj h
    trivial
  | setCampaignStatus campaignId input advertiserIds =>
    obtain ⟨campaign, hfind, h⟩ := orFail_bind_eq_ok.mp h
    obtain rfl := Except.ok.inj h
    exact Table.find?_key (Table.find?_eq_some.mp hfind).1
  | submitCampaign campaignId input =>
    obtain ⟨campaign, -, h⟩ := orFail_bind_eq_ok.mp h
    obtain ⟨⟨⟩, -, h⟩ := bind_eq_ok.mp h
    obtain rfl := Except.ok.inj h
    trivial
  | decide reviewId input reviewerUserId =>
    obtain ⟨review, hfind, h⟩ := orFail_bind_eq_ok.mp h
    obtain ⟨-, h⟩ := failIf_bind_eq_ok.mp h
    obtain rfl := Except.ok.inj h
    exact ⟨review, Table.find?_key (Table.find?_eq_some.mp hfind).1, rfl, rfl, rfl⟩

end Frame

/-- **The promises of the requests**, for whatever a commit keeps. -/
theorem campaigns_promise {okAt : CampaignPoint → ModerationDb → Prop} {I : ModerationDb → Prop}
    (hcommit : ∀ {db db' : ModerationDb} {p : CampaignPoint}, I db → p.Relies db → okAt p db →
      CommitsCampaign db p db' → I db') :
    campaignWorkers.Promises campaignWorkers.Exclusive (Workers.GoesWhere okAt) I CampaignPoint.Relies where
  start := by
    intro S request p _ _ hstart
    have hresult : request.start S.committed = .ok p := by
      simp only [campaignWorkers] at hstart
      cases hresult : request.start S.committed with
      | error e => rw [hresult] at hstart; cases hstart
      | ok p' =>
        rw [hresult] at hstart
        obtain rfl := Option.some.inj hstart
        rfl
    exact .start hresult
  next := by
    intro S w now p store q _ hkeeps hfind hok hnext
    have hp := hkeeps.at hfind
    rcases CampaignPoint.next_cases hnext with rfl | ⟨rfl, hcommits⟩
    · refine ⟨hkeeps.store, fun p' hp' => ?_⟩
      obtain rfl := Option.mem_def.mp hp'
      exact hp.next hnext
    · exact ⟨hcommit hkeeps.store hp (hok p hfind) hcommits, fun p' hp' => absurd hp' (Option.not_mem_none p')⟩
  stable := by
    intro S w now p store q hex hkeeps hfind _ hnext x hx
    obtain ⟨hx, hne⟩ := Sessions.mem_others.mp hx
    have hx' := hkeeps.worker x hx
    rcases CampaignPoint.next_cases hnext with rfl | ⟨-, hcommits⟩
    · exact hx'
    · exact hx'.onward hcommits fun k hk => hex x hx (w, p) (S.mem_of_find? hfind) hne k hk
  outside := by
    intro S event
    exact event.elim

/-- What every commit keeps holds in every reachable state. -/
theorem campaigns_keep {init : ModerationDb → Prop} {okAt : CampaignPoint → ModerationDb → Prop}
    {I : ModerationDb → Prop} (hinit : ∀ db, init db → I db)
    (hcommit : ∀ {db db' : ModerationDb} {p : CampaignPoint}, I db → p.Relies db → okAt p db →
      CommitsCampaign db p db' → I db') {S : CampaignState}
    (h : (campaignSessions init).Reachable (Workers.GoesWhere okAt) S) : Workers.Keeps I CampaignPoint.Relies S :=
  Workers.keeps (campaigns_promise hcommit) hinit (fun _ hS => Workers.exclusive hS) h

end AtlasErp
