import AtlasErp.Coverage.NoticeDecision

/-! # The overdue sweep

Marks OVERDUE the installments that are past due and have no confirmed payment, and sends to review
the notices nobody verified in time.  A reported notice within its term keeps the installment as it
is.

- `sweep_cases`: a sweep opens reviews and marks scheduled installments overdue, nothing else. -/

namespace AtlasErp

open Lib

/-- What happened in one pass. -/
structure OverdueSweepResult where
  corte : Day
  revisadas : Nat
  marcadas : Nat
  conPago : Nat
  avisoPendiente : Nat
  enRevision : Nat
  deriving DecidableEq

/-- What the loop of the sweep carries: the counters, the review queue and the ids to mark. -/
structure SweepState where
  result : OverdueSweepResult
  reviewItems : Table CoverageReviewItem
  aMarcar : List Nat

section Sweep

variable (db : CoverageDb) (corte : Day) (now : Instant) (hours : Int)

/-- An installment the sweep looks at. -/
def Installment.isVencida (cuota : Installment) : Bool :=
  (cuota.status = .scheduled ∨ cuota.status = .overdue) ∧ cuota.dueDate < corte

/-- The sum of the confirmed notices among some. -/
def confirmado (propios : List ConsumerPaymentToMerchant) : Int :=
  ((propios.filter (·.status = .confirmed)).map (·.amount)).sum

/-- Open the review of the notices of an installment, unless one is open. -/
def openSweepReview (reviewItems : Table CoverageReviewItem) (installmentId : Nat)
    (noticeIds : List Nat) : Bool × Table CoverageReviewItem :=
  match reviewItems.findBy (fun r => r.installmentId = installmentId ∧
      r.reason = .paymentNoticeUnresolved ∧ r.status = .open) with
  | some _ => (false, reviewItems)
  | none => (true, reviewItems.create
      (newReviewItem installmentId .paymentNoticeUnresolved (.sweep noticeIds hours) none now))

/-- One installment of the sweep. -/
def sweepOne (s : SweepState) (cuota : Installment) : SweepState :=
  let propios := db.notices.rowsWhere
    (fun n => n.installmentId = some cuota.id ∧ (n.status = .reported ∨ n.status = .confirmed))
  let pendientes := propios.filter (·.status = .reported)
  let vencidosSinVerificar := pendientes.filter (fun n => n.createdAt ≤ now - hours * 3600000)
  let esProgramada := cuota.status = .scheduled
  let uno := if esProgramada then 1 else 0
  let s := { s with result.revisadas := s.result.revisadas + uno }
  if confirmado propios ≥ cuota.amount then
    { s with result.conPago := s.result.conPago + uno }
  else if vencidosSinVerificar.length > 0 then
    let (abierta, reviewItems) := openSweepReview now hours s.reviewItems cuota.id
      (vencidosSinVerificar.map (·.id))
    { result := { s.result with enRevision := s.result.enRevision + if abierta then 1 else 0 }
      reviewItems
      aMarcar := if esProgramada then s.aMarcar ++ [cuota.id] else s.aMarcar }
  else if pendientes.length > 0 then
    -- within the term: neither paid nor overdue yet
    { s with result.avisoPendiente := s.result.avisoPendiente + uno }
  else { s with aMarcar := if esProgramada then s.aMarcar ++ [cuota.id] else s.aMarcar }

/-- One pass of the sweep. -/
def sweep : OverdueSweepResult × CoverageDb :=
  let vencidas := db.installments.rowsWhere (·.isVencida corte)
  let swept := vencidas.foldl (sweepOne db now hours) ⟨⟨corte, 0, 0, 0, 0, 0⟩, db.reviewItems, []⟩
  ({ swept.result with marcadas := swept.aMarcar.length },
    { db with
      reviewItems := swept.reviewItems
      installments := db.installments.updateWhere (fun i => swept.aMarcar.contains i.id)
        (fun i => { i with status := .overdue }) })

variable {db corte now hours}

/-- The loop only marks installments that are scheduled. -/
theorem sweepOne_aMarcar (s : SweepState) (cuota : Installment) {id : Nat}
    (h : id ∈ (sweepOne db now hours s cuota).aMarcar) :
    id ∈ s.aMarcar ∨ (id = cuota.id ∧ cuota.status = .scheduled) := by
  unfold sweepOne at h
  dsimp only at h
  split at h
  · exact .inl h
  · split at h
    · by_cases hs : cuota.status = .scheduled <;> simp [hs] at h <;> tauto
    · split at h
      · exact .inl h
      · by_cases hs : cuota.status = .scheduled <;> simp [hs] at h <;> tauto

theorem foldl_sweepOne_aMarcar (cuotas : List Installment) (s : SweepState) {id : Nat}
    (h : id ∈ (cuotas.foldl (sweepOne db now hours) s).aMarcar) :
    id ∈ s.aMarcar ∨ ∃ cuota ∈ cuotas, id = cuota.id ∧ cuota.status = .scheduled := by
  induction cuotas generalizing s with
  | nil => exact .inl h
  | cons cuota cuotas ih =>
    rcases ih _ h with h | ⟨c, hc, hid⟩
    · rcases sweepOne_aMarcar s cuota h with h | h
      · exact .inl h
      · exact .inr ⟨cuota, List.mem_cons_self, h⟩
    · exact .inr ⟨c, List.mem_cons_of_mem _ hc, hid⟩

/-- A sweep writes review items, and marks overdue only installments that are scheduled. -/
theorem sweep_cases :
    ∃ reviewItems, ∃ aMarcar : List Nat, (sweep db corte now hours).2 =
        { db with
          reviewItems
          installments := db.installments.updateWhere (fun i => aMarcar.contains i.id)
            (fun i => { i with status := .overdue }) } ∧
      ∀ i ∈ db.installments, aMarcar.contains i.id = true → i.status = .scheduled := by
  refine ⟨_, _, rfl, fun i hi hmark => ?_⟩
  rcases foldl_sweepOne_aMarcar _ _ (by simpa using hmark) with h | ⟨cuota, hc, hid, hs⟩
  · simp at h
  · have hmem := (Table.mem_rowsWhere.mp hc).1
    rwa [Table.eq_of_key_eq hi hmem hid]

end Sweep

end AtlasErp
