import AtlasErp.Coverage.NoticeDecision

/-! # Resolving the review queue

A person of finance closes an item of the queue: confirming or rejecting a payment notice of the
installment, or dismissing the item.  The item must still be open, and whoever opened it does not
resolve it.

- `resolveReviewItem_cases`: a successful resolution either only writes review items, or decides a
  pending notice of the locked installment, confirming it only without live coverage. -/

namespace AtlasErp

open Lib

/-- Reasons that speak of a reported notice; they are closed by deciding the notice. -/
def CoverageReviewReason.isNoticeReason : CoverageReviewReason → Bool
  | .paymentNoticeUnresolved => true
  | .coverageWithPendingNotice => true
  | .latePaymentWithCoverage => true
  | .contractNotActive => false

/-- What a person may do with an item. -/
inductive ReviewAction where
  | confirmNotice
  | rejectNotice
  | dismiss
  deriving DecidableEq

/-- The body of the request. -/
structure ResolveCoverageReviewItemDto where
  action : ReviewAction
  noticeId : Option Nat
  note : String
  deriving DecidableEq

/-- The installment as the answer shows it. -/
structure InstallmentState where
  id : Nat
  status : InstallmentStatus
  amount : Int
  confirmedPaidAmount : Int
  balance : Int
  deriving DecidableEq

/-- What `resolveReviewItem` answers. -/
structure ResolveReviewItemResult where
  outcome : CoverageReviewResolution
  reviewItem : CoverageReviewItem
  closedReviewItemIds : List Nat
  notice : Option ConsumerPaymentToMerchant
  pendingNoticesLeft : Option Int
  installment : InstallmentState
  deriving DecidableEq

/-- What can be done with an open item, by its reason and by whether a notice is left. -/
def allowedActions (item : CoverageReviewItem) (pendingCount : Nat) : List ReviewAction :=
  if item.reason = .contractNotActive then [.dismiss]
  else if item.reason.isNoticeReason then
    if pendingCount > 0 then [.confirmNotice, .rejectNotice] else [.dismiss]
  else []

/-- The notice to decide: the one named, or the only one. -/
def pickNotice (pending : List ConsumerPaymentToMerchant) (noticeId : Option Nat) :
    Except HttpError ConsumerPaymentToMerchant :=
  match pending with
  | [] => throw (conflict "NO_PENDING_NOTICE"
      "La cuota ya no tiene avisos de pago pendientes: descarte la revisión con un motivo.")
  | first :: rest =>
    match noticeId with
    | some id => orFail (pending.find? (fun notice => notice.id = id))
        (conflict "NOTICE_NOT_PENDING" "Ese aviso de pago no está pendiente en esta cuota.")
    | none =>
      if rest.length > 0 then
        throw (unprocessable "NOTICE_ID_REQUIRED"
          "La cuota tiene varios avisos pendientes: indique cuál se decide.")
      else .ok first

/-- The item, closed. -/
def CoverageReviewItem.close (resolution : CoverageReviewResolution) (note : String)
    (actor : CoverageActor) (now : Instant) (item : CoverageReviewItem) : CoverageReviewItem :=
  { item with
    status := .resolved
    resolution := some resolution
    resolvedAt := some now
    resolvedByUserId := some actor.userId
    resolutionNote := some note }

/-- The installment as the answer shows it, for a sum confirmed. -/
def installmentState (installment : Installment) (confirmedMinor : Int) : InstallmentState where
  id := installment.id
  status := installment.status
  amount := installment.amount
  confirmedPaidAmount := confirmedMinor
  balance := if installment.amount - confirmedMinor > 0 then installment.amount - confirmedMinor else 0

section Resolve

variable (db : CoverageDb) (item : CoverageReviewItem) (installment : Installment)
  (pending : List ConsumerPaymentToMerchant) (input : ResolveCoverageReviewItemDto)
  (actor : CoverageActor) (now : Instant)

/-- Close an item without touching money. -/
def dismiss (pendingCount : Nat) : Except HttpError (ResolveReviewItemResult × CoverageDb) := do
  failIf ((allowedActions item pendingCount).contains .dismiss = false)
    (conflict "REVIEW_ACTION_NOT_ALLOWED"
      "Este elemento tiene un aviso de pago pendiente: se resuelve confirmando o rechazando el aviso, no descartándolo.")
  let closed := item.close .dismissed input.note actor now
  return (⟨.dismissed, closed, [item.id], none, none,
      installmentState installment (confirmedMinorOf db installment.id)⟩,
    { db with reviewItems := db.reviewItems.put closed })

/-- An open item of the same installment that speaks of a notice. -/
def CoverageReviewItem.isSibling (installmentId : Nat) (r : CoverageReviewItem) : Bool :=
  r.installmentId = installmentId ∧ r.status = .open ∧ r.reason.isNoticeReason

/-- Decide the notice an item speaks of. -/
def decideNotice : Except HttpError (ResolveReviewItemResult × CoverageDb) := do
  failIf (item.reason.isNoticeReason = false) (conflict "REVIEW_ACTION_NOT_ALLOWED"
    "Este elemento no trata de un aviso de pago: sólo se puede descartar con un motivo.")
  let notice ← pickNotice pending input.noticeId
  let confirming := input.action = .confirmNotice
  failIf (confirming ∧ hasLiveCoverage db installment = true) (conflict "COVERAGE_IN_PLACE"
    "La cuota ya tiene una cobertura de Atlas: cancélela antes de confirmar el aviso, o registre el cobro como recuperación.")
  let (decided, db') := applyNoticeDecision db
    { installment, notice
      pendingCount := pending.length
      confirming
      decidedByUserId := some actor.userId
      note := input.note
      now }
  let resolution := if confirming then .noticeConfirmed else .noticeRejected
  -- while another notice of the installment is pending, the review stays open
  let siblings := if decided.stillPending = 0 then
    db'.reviewItems.rowsWhere (·.isSibling installment.id) else []
  let reviewItems := if decided.stillPending = 0 then
    db'.reviewItems.updateWhere (·.isSibling installment.id)
      (CoverageReviewItem.close resolution input.note actor now) else db'.reviewItems
  return (⟨resolution, item, siblings.map (·.id), some decided.notice, some decided.stillPending,
      installmentState decided.installment decided.confirmedMinor⟩,
    { db' with reviewItems })

/-- Resolve an item of the queue. -/
def resolveReviewItem (reviewItemId : Nat) : Except HttpError (ResolveReviewItemResult × CoverageDb) := do
  let item ← orFail (db.reviewItems.find? reviewItemId)
    (notFound "Elemento de revisión no encontrado.")
  let installment ← orFail (db.installments.find? item.installmentId)
    (notFound "Cuota de la revisión no encontrada.")
  failIf (item.status ≠ .open) (conflict "REVIEW_ITEM_ALREADY_RESOLVED"
    ("El elemento ya se resolvió (" ++
      (match item.resolution with | some r => r.text | none => "RESOLVED") ++ ")."))
  failIf (item.openedByUserId = some actor.userId) (forbidden "FOUR_EYES_REQUIRED"
    "Quien pidió la cobertura que abrió esta revisión no puede resolverla.")
  let pending := db.notices.rowsWhere (·.pendingFor installment.id)
  match input.action with
  | .dismiss => dismiss db item installment input actor now pending.length
  | .confirmNotice => decideNotice db item installment pending input actor now
  | .rejectNotice => decideNotice db item installment pending input actor now

variable {db item installment pending input actor now}

theorem pickNotice_mem {noticeId : Option Nat} {notice : ConsumerPaymentToMerchant}
    (h : pickNotice pending noticeId = .ok notice) : notice ∈ pending := by
  unfold pickNotice at h
  split at h
  · exact absurd h throw_ne_ok
  · split at h
    · exact List.mem_of_find?_eq_some (orFail_eq_ok.mp h)
    · split at h
      · exact absurd h throw_ne_ok
      · obtain rfl := Except.ok.inj h
        exact List.mem_cons_self

/-- A review decides a pending notice of the installment it locked, and confirms it only when there
is no live coverage. -/
structure ReviewDecision (db : CoverageDb) (input : NoticeDecisionInput) : Prop where
  installment_mem : db.installments.find? input.installment.id = some input.installment
  notice_mem : input.notice ∈ db.notices
  pending : input.notice.pendingFor input.installment.id = true
  uncovered : input.confirming = true → hasLiveCoverage db input.installment = false

theorem decideNotice_cases {result : ResolveReviewItemResult} {db' : CoverageDb}
    (hinst : db.installments.find? installment.id = some installment)
    (h : decideNotice db item installment (db.notices.rowsWhere (·.pendingFor installment.id))
      input actor now = .ok (result, db')) :
    ∃ decision reviewItems, ReviewDecision db decision ∧
      decision.pendingCount = (db.notices.rowsWhere (·.pendingFor decision.installment.id)).length ∧
      db' = { (applyNoticeDecision db decision).2 with reviewItems } := by
  unfold decideNotice at h
  obtain ⟨-, h⟩ := failIf_bind_eq_ok.mp h
  obtain ⟨notice, hpick, h⟩ := bind_eq_ok.mp h
  obtain ⟨hcov, h⟩ := failIf_bind_eq_ok.mp h
  have hmem := Table.mem_rowsWhere.mp (pickNotice_mem hpick)
  have hdb := congrArg Prod.snd (pure_eq_ok.mp h)
  refine ⟨_, _, ⟨hinst, hmem.1, hmem.2, fun hconf => ?_⟩, rfl, hdb.symm⟩
  simp only [decide_eq_true_eq] at hconf
  simpa [hconf] using hcov

/-- All that a successful `resolveReviewItem` can do. -/
theorem resolveReviewItem_cases {reviewItemId : Nat} {result : ResolveReviewItemResult}
    {db' : CoverageDb} (h : resolveReviewItem db input actor now reviewItemId = .ok (result, db')) :
    (∃ reviewItems, db' = { db with reviewItems }) ∨
      ∃ decision reviewItems, ReviewDecision db decision ∧
        decision.pendingCount =
          (db.notices.rowsWhere (·.pendingFor decision.installment.id)).length ∧
        db' = { (applyNoticeDecision db decision).2 with reviewItems } := by
  unfold resolveReviewItem at h
  obtain ⟨item, hitem, h⟩ := orFail_bind_eq_ok.mp h
  obtain ⟨installment, hinst, h⟩ := orFail_bind_eq_ok.mp h
  obtain ⟨-, h⟩ := failIf_bind_eq_ok.mp h
  obtain ⟨-, h⟩ := failIf_bind_eq_ok.mp h
  have hfind : db.installments.find? installment.id = some installment :=
    Table.find?_key (Table.find?_eq_some.mp hinst).1
  cases hact : input.action with
  | dismiss =>
    rw [hact] at h
    obtain ⟨-, h⟩ := failIf_bind_eq_ok.mp h
    exact .inl ⟨_, (congrArg Prod.snd (pure_eq_ok.mp h)).symm⟩
  | confirmNotice =>
    rw [hact] at h
    exact .inr (decideNotice_cases hfind h)
  | rejectNotice =>
    rw [hact] at h
    exact .inr (decideNotice_cases hfind h)

end Resolve

end AtlasErp
