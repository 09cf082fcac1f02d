import AtlasErp.Ads.Model
import AtlasErp.Lib.Workers

/-! # Advertising: the payments of an invoice

`registerPayment` reads the invoice, sums its payments and compares, and writes the payment and the status afterwards;
nothing is locked until the status is written.

- `registerPayment`: its checks, and the status that it leaves;
- `paymentWorkers`, `adsPayments`: the calls, and their interleavings;
- `paidExactly_of_reachable`: every interleaving in which each call that commits finds the payments that it summed;
- `paidExactly_counterexample`: two payments that both see the whole balance. -/

namespace AtlasErp

open Lib

/-! ## Tables -/

/-- A row of `ad_payments`.  `isConfirmed` says that its status is `CONFIRMED`. -/
structure AdsPayment where
  id : Nat
  invoiceId : Nat
  amountMicros : Int
  currency : String
  paymentMethod : String
  externalReference : Option String
  paidAt : Instant
  isConfirmed : Bool
  deriving DecidableEq

instance : HasKey AdsPayment := ⟨(·.id), fun k r => { r with id := k }, fun _ _ => rfl, fun _ => rfl⟩

structure AdsPaymentDb where
  invoices : Table AdsInvoice
  payments : Table AdsPayment
  deriving DecidableEq

/-- A body that passed `registerPaymentSchema`. -/
structure RegisterAdsPaymentDto where
  amountMicros : PositiveAmount
  currency : String
  paymentDate : Day
  paymentMethod : String
  reference : Option String
  deriving DecidableEq

/-- `sumPaid`: the confirmed payments of an invoice. -/
def AdsPaymentDb.sumPaid (db : AdsPaymentDb) (invoiceId : Nat) : Int :=
  db.payments.total fun p => if p.invoiceId = invoiceId ∧ p.isConfirmed = true then p.amountMicros else 0

/-! ## The checks of a payment -/

/-- The checks on the invoice. -/
def checkAdsInvoice (invoice : AdsInvoice) (input : RegisterAdsPaymentDto) : Except HttpError Unit :=
  if invoice.status = .void ∨ invoice.status = .paid then
    .error (conflict "INVOICE_PAYMENT_NOT_ALLOWED" "La factura no permite registrar pagos adicionales.")
  else if invoice.currency ≠ input.currency then
    .error (conflict "INVOICE_CURRENCY_MISMATCH" "La moneda del pago no coincide con la moneda de la factura.")
  else .ok ()

theorem checkAdsInvoice_eq_ok {invoice : AdsInvoice} {input : RegisterAdsPaymentDto}
    (h : checkAdsInvoice invoice input = .ok ()) :
    invoice.status ≠ .void ∧ invoice.status ≠ .paid ∧ invoice.currency = input.currency := by
  unfold checkAdsInvoice at h
  split at h
  · cases h
  · rename_i hopen
    split at h
    · cases h
    · rename_i hcurrency
      exact ⟨fun hvoid => hopen (.inl hvoid), fun hpaid => hopen (.inr hpaid), not_not.mp hcurrency⟩

/-- The check on the balance, with what is paid already. -/
def checkAdsBalance (invoice : AdsInvoice) (input : RegisterAdsPaymentDto) (currentPaidMicros : Int) :
    Except HttpError Unit :=
  if currentPaidMicros + input.amountMicros > invoice.totalMicros then
    .error (conflict "PAYMENT_EXCEEDS_INVOICE_TOTAL" "El pago excede el saldo pendiente de la factura.")
  else .ok ()

/-- A payment that passed the checks: the invoice as it was read, and the sum. -/
structure CheckedPayment where
  invoice : AdsInvoice
  input : RegisterAdsPaymentDto
  currentPaidMicros : Int
  accepted : checkAdsInvoice invoice input = .ok ()
  fits : checkAdsBalance invoice input currentPaidMicros = .ok ()
  deriving DecidableEq

namespace CheckedPayment

variable (d : CheckedPayment)

def nextPaidMicros : Int := d.currentPaidMicros + d.input.amountMicros

theorem nextPaid_le : d.nextPaidMicros ≤ d.invoice.totalMicros := by
  have hfits := d.fits
  unfold checkAdsBalance at hfits
  split at hfits
  · cases hfits
  · exact not_lt.mp ‹_›

def nextStatus : AdsInvoiceStatus :=
  if d.nextPaidMicros ≥ d.invoice.totalMicros then .paid else .partiallyPaid

theorem nextStatus_eq_paid : d.nextStatus = .paid ↔ d.nextPaidMicros = d.invoice.totalMicros := by
  have hle := d.nextPaid_le
  unfold nextStatus
  split
  · simp only [true_iff]
    omega
  · simp only [reduceCtorEq, false_iff]
    omega

def row (id : Nat) : AdsPayment where
  id
  invoiceId := d.invoice.id
  amountMicros := d.input.amountMicros
  currency := d.input.currency
  paymentMethod := d.input.paymentMethod
  externalReference := d.input.reference
  paidAt := d.input.paymentDate * 86400000 + 43200000
  isConfirmed := true

/-- `invoice.update({ status })` writes what differs from the invoice as it was read. -/
def changesStatus : Bool := d.nextStatus ≠ d.invoice.status

/-- The writes of a payment. -/
def commit (db : AdsPaymentDb) : AdsPaymentDb where
  payments := db.payments.create d.row
  invoices :=
    if d.changesStatus then db.invoices.updateWhere (·.id = d.invoice.id) fun i => { i with status := d.nextStatus }
    else db.invoices

end CheckedPayment

/-! ## Calls that interleave -/

/-- Where a call is. -/
inductive AdsPaymentPoint where
  | invoiceRead (invoice : AdsInvoice) (input : RegisterAdsPaymentDto)
      (accepted : checkAdsInvoice invoice input = .ok ())
  /-- The payment is inserted; others do not see it yet. -/
  | inserted (d : CheckedPayment)
  /-- The status is written. -/
  | updated (d : CheckedPayment)
  deriving DecidableEq

namespace AdsPaymentPoint

def invoice : AdsPaymentPoint → AdsInvoice
  | .invoiceRead invoice _ _ => invoice
  | .inserted d | .updated d => d.invoice

/-- The row of the invoice is locked when its status is written. -/
def holds : AdsPaymentPoint → List Nat
  | .updated d => if d.changesStatus then [d.invoice.id] else []
  | _ => []

/-- What a call does next; an error ends it without a trace. -/
def next : AdsPaymentPoint → AdsPaymentDb → Option (AdsPaymentDb × Option AdsPaymentPoint)
  | .invoiceRead invoice input accepted, db =>
    match hfits : checkAdsBalance invoice input (db.sumPaid invoice.id) with
    | .error _ => some (db, none)
    | .ok _ => some (db, some (.inserted ⟨invoice, input, db.sumPaid invoice.id, accepted, hfits⟩))
  | .inserted d, db => some (db, some (.updated d))
  | .updated d, db => some (d.commit db, none)

end AdsPaymentPoint

/-- `registerPayment`, up to its first check. -/
def registerAdsPayment (invoiceId : Nat) (input : RegisterAdsPaymentDto) (db : AdsPaymentDb) :
    Except HttpError AdsPaymentPoint :=
  match db.invoices.find? invoiceId with
  | none => .error ⟨.notFound, some "INVOICE_NOT_FOUND", "La factura no existe."⟩
  | some invoice =>
    match haccepted : checkAdsInvoice invoice input with
    | .error e => .error e
    | .ok _ => .ok (.invoiceRead invoice input haccepted)

/-- The calls as workers; nothing else writes the payments. -/
def paymentWorkers : Workers AdsPaymentDb (Nat × RegisterAdsPaymentDto) Unit Empty Nat AdsPaymentPoint where
  start call db := (registerAdsPayment call.1 call.2 db).toOption
  holds := AdsPaymentPoint.holds
  next p _ := p.next
  outside event _ := event.elim

abbrev AdsPaymentState := Sessions AdsPaymentDb AdsPaymentPoint

abbrev AdsPaymentAct := WorkerAct (Nat × RegisterAdsPaymentDto) Unit Empty

/-- Any interleaving of calls, from invoices without payments. -/
def adsPayments : Machine AdsPaymentState AdsPaymentAct :=
  paymentWorkers.machine fun db => db.payments = .empty ∧ ∀ i ∈ db.invoices, i.status ≠ .paid

/-! ## The property and the condition -/

/-- The payments of an invoice stay within its total, and it is paid when they reach it. -/
structure PaidExactly (db : AdsPaymentDb) (i : AdsInvoice) : Prop where
  within : db.sumPaid i.id ≤ i.totalMicros
  paid : i.status = .paid ↔ db.sumPaid i.id = i.totalMicros

/-- The condition on a step: a call that commits finds the payments that it summed. -/
def FindsPayments (S : AdsPaymentState) : AdsPaymentAct → Prop
  | .go w _ => ∀ p ∈ S.find? w,
    match p with
    | .updated d => S.committed.sumPaid d.invoice.id = d.currentPaidMicros
    | _ => True
  | _ => True

instance (p : AdsPaymentPoint) (db : AdsPaymentDb) : Decidable (match p with
    | .updated d => db.sumPaid d.invoice.id = d.currentPaidMicros
    | _ => True) :=
  match p with
  | .updated _ => inferInstanceAs (Decidable (_ = _))
  | .invoiceRead .. | .inserted _ => .isTrue trivial

instance (S : AdsPaymentState) : DecidablePred (FindsPayments S)
  | .go w _ => inferInstanceAs (Decidable (∀ p ∈ S.find? w, _))
  | .start .. | .die _ | .outside _ => .isTrue trivial

section Runs

variable {db db' : AdsPaymentDb}

/-- Every invoice that charges something is paid exactly. -/
def PaymentBooks (db : AdsPaymentDb) : Prop := ∀ i ∈ db.invoices, 0 < i.totalMicros → PaidExactly db i

/-- The invoice that was read is there, with its total. -/
def StillCharges (invoice : AdsInvoice) (db : AdsPaymentDb) : Prop :=
  ∃ i ∈ db.invoices, i.id = invoice.id ∧ i.totalMicros = invoice.totalMicros

theorem CheckedPayment.sumPaid_commit (d : CheckedPayment) (invoiceId : Nat) :
    (d.commit db).sumPaid invoiceId =
      db.sumPaid invoiceId + if d.invoice.id = invoiceId then (d.input.amountMicros : Int) else 0 := by
  simp only [AdsPaymentDb.sumPaid, CheckedPayment.commit]
  rw [Table.total_create _ fun _ => rfl]
  simp only [CheckedPayment.row, and_true]

/-- The invoices after a payment: only the status of its invoice may be another. -/
theorem CheckedPayment.mem_commit (d : CheckedPayment) {i' : AdsInvoice} (h : i' ∈ (d.commit db).invoices) :
    ∃ i ∈ db.invoices, i'.id = i.id ∧ i'.totalMicros = i.totalMicros ∧
      i'.status = if i.id = d.invoice.id ∧ d.changesStatus = true then d.nextStatus else i.status := by
  simp only [CheckedPayment.commit] at h
  split at h
  · rename_i hchanges
    obtain ⟨i, hi, rfl⟩ := (Table.mem_updateWhere (p := fun i : AdsInvoice => i.id = d.invoice.id)
      (f := fun i => { i with status := d.nextStatus }) fun _ => rfl).mp h
    by_cases hid : i.id = d.invoice.id <;> exact ⟨i, hi, by simp [hid, hchanges]⟩
  · rename_i hsame
    exact ⟨i', h, rfl, rfl, by simp [hsame]⟩

theorem StillCharges.commit {invoice : AdsInvoice} (h : StillCharges invoice db) (d : CheckedPayment) :
    StillCharges invoice (d.commit db) := by
  obtain ⟨i, hi, hid, htotal⟩ := h
  simp only [StillCharges, CheckedPayment.commit]
  split
  · obtain ⟨i', hi', hsame⟩ := Table.exists_updateWhere (p := fun i : AdsInvoice => i.id = d.invoice.id)
      (f := fun i => { i with status := d.nextStatus }) (fun _ => rfl)
      (R := fun i i' => i'.id = i.id ∧ i'.totalMicros = i.totalMicros) (fun _ => ⟨rfl, rfl⟩) (fun _ => ⟨rfl, rfl⟩)
      hi
    exact ⟨i', hi', hsame.1.trans hid, hsame.2.trans htotal⟩
  · exact ⟨i, hi, hid, htotal⟩

/-- **A payment** keeps the books when it finds the payments that it summed. -/
theorem PaymentBooks.commit (h : PaymentBooks db) {d : CheckedPayment} (hcharges : StillCharges d.invoice db)
    (hsum : db.sumPaid d.invoice.id = d.currentPaidMicros) : PaymentBooks (d.commit db) := by
  intro i' hi' hpositive
  obtain ⟨i, hi, hid, htotal, hstatus⟩ := d.mem_commit hi'
  have hi₀ := h i hi (htotal ▸ hpositive)
  by_cases hthis : i.id = d.invoice.id
  · obtain ⟨j, hj, hjid, hjtotal⟩ := hcharges
    obtain rfl : j = i := Table.eq_of_key_eq hj hi (hjid.trans hthis.symm)
    have hpaid : (d.commit db).sumPaid i'.id = d.nextPaidMicros := by
      rw [d.sumPaid_commit, hid, hthis, if_pos rfl, hsum]
      rfl
    have hinvoiceTotal : i'.totalMicros = d.invoice.totalMicros := htotal.trans hjtotal
    refine ⟨?_, ?_⟩
    · rw [hpaid, hinvoiceTotal]
      exact d.nextPaid_le
    · rw [hpaid, hinvoiceTotal, ← d.nextStatus_eq_paid, hstatus]
      by_cases hchanges : d.changesStatus = true
      · rw [if_pos ⟨hthis, hchanges⟩]
      · -- nothing is written: the status was read, and it is not `PAID`; nor is the stored one
        rw [if_neg fun hand => hchanges hand.2]
        have hsame : d.nextStatus = d.invoice.status := by simpa [CheckedPayment.changesStatus] using hchanges
        have hnot : d.nextStatus ≠ .paid := hsame ▸ (checkAdsInvoice_eq_ok d.accepted).2.1
        have hopen : j.status ≠ .paid := by
          intro hstored
          have hfull := hi₀.paid.mp hstored
          have hle := d.nextPaid_le
          have hamount := d.input.amountMicros.2
          rw [hthis, hsum, hjtotal] at hfull
          unfold CheckedPayment.nextPaidMicros at hle
          omega
        exact iff_of_false hopen hnot
  · have hsame : (d.commit db).sumPaid i'.id = db.sumPaid i.id := by
      rw [d.sumPaid_commit, hid, if_neg (Ne.symm hthis), add_zero]
    refine ⟨?_, ?_⟩
    · rw [hsame, htotal]
      exact hi₀.within
    · rw [hsame, htotal, hstatus, if_neg fun hand => hthis hand.1]
      exact hi₀.paid

/-- What a call does next changes nothing, or commits a checked payment. -/
theorem AdsPaymentPoint.next_cases {p : AdsPaymentPoint} {q : Option AdsPaymentPoint} (h : p.next db = some (db', q)) :
    db' = db ∧ (∀ p' ∈ q, p'.invoice = p.invoice) ∨ ∃ d, p = .updated d ∧ db' = d.commit db ∧ q = none := by
  cases p with
  | invoiceRead invoice input accepted =>
    simp only [AdsPaymentPoint.next] at h
    split at h
    · obtain ⟨rfl, rfl⟩ := Prod.mk.inj (Option.some.inj h)
      exact .inl ⟨rfl, fun p' hp' => absurd hp' (Option.not_mem_none p')⟩
    · obtain ⟨rfl, rfl⟩ := Prod.mk.inj (Option.some.inj h)
      refine .inl ⟨rfl, fun p' hp' => ?_⟩
      rw [← Option.some.inj hp']
      rfl
  | inserted d =>
    obtain ⟨rfl, rfl⟩ := Prod.mk.inj (Option.some.inj h)
    refine .inl ⟨rfl, fun p' hp' => ?_⟩
    rw [← Option.some.inj hp']
    rfl
  | updated d =>
    obtain ⟨rfl, rfl⟩ := Prod.mk.inj (Option.some.inj h)
    exact .inr ⟨d, rfl, rfl, rfl⟩

theorem payments_promise :
    paymentWorkers.Promises (fun _ => True) FindsPayments PaymentBooks (fun p db => StillCharges p.invoice db) where
  start := by
    rintro S ⟨invoiceId, input⟩ p - - hstart
    simp only [paymentWorkers, registerAdsPayment] at hstart
    split at hstart
    · cases hstart
    · rename_i invoice hfind
      split at hstart
      · cases hstart
      · obtain rfl := Option.some.inj hstart
        exact ⟨invoice, (Table.find?_eq_some.mp hfind).1, rfl, rfl⟩
  next := by
    intro S w answer p store q _ hkeeps hfind hok hnext
    have hp := hkeeps.at hfind
    rcases AdsPaymentPoint.next_cases hnext with ⟨rfl, hsame⟩ | ⟨d, rfl, rfl, rfl⟩
    · refine ⟨hkeeps.store, fun p' hp' => ?_⟩
      rw [hsame p' hp']
      exact hp
    · exact ⟨hkeeps.store.commit hp (hok _ hfind), fun p' hp' => absurd hp' (Option.not_mem_none p')⟩
  stable := by
    intro S w answer p store q _ hkeeps hfind _ hnext x hx
    have hx' := hkeeps.worker x (Sessions.mem_others.mp hx).1
    rcases AdsPaymentPoint.next_cases hnext with ⟨rfl, -⟩ | ⟨d, -, rfl, -⟩
    · exact hx'
    · exact hx'.commit d
  outside := by
    intro S event
    exact event.elim

end Runs

/-- **An invoice is paid exactly**: in every interleaving of payments in which each call that commits finds the payments
that it summed, an invoice with a total greater than zero is not overpaid, and is `PAID` exactly when its confirmed
payments are its total. -/
theorem paidExactly_of_reachable {S : AdsPaymentState} (h : adsPayments.Reachable FindsPayments S) {i : AdsInvoice}
    (hi : i ∈ S.committed.invoices) (hpositive : 0 < i.totalMicros) : PaidExactly S.committed i := by
  have hinit : ∀ db : AdsPaymentDb, (db.payments = .empty ∧ ∀ i ∈ db.invoices, i.status ≠ .paid) →
      PaymentBooks db := by
    rintro db ⟨hnone, hopen⟩ i hi hpositive
    have hzero : db.sumPaid i.id = 0 := by
      rw [AdsPaymentDb.sumPaid, hnone]
      rfl
    refine ⟨?_, iff_of_false (hopen i hi) ?_⟩ <;> rw [hzero]
    · exact hpositive.le
    · exact hpositive.ne
  exact (Workers.keeps payments_promise hinit (fun _ _ => trivial) h).store i hi hpositive

/-! ## Two payments at once -/

section Examples

/-- An invoice of 1.00. -/
def chargedInvoice : AdsInvoice :=
  ⟨1, 1, [], 1, 0, 30, "BOB", 1000000, 0, 1000000, .draft, [], []⟩

def chargedAdsDb : AdsPaymentDb := ⟨Table.empty.create fun id => { chargedInvoice with id }, .empty⟩

/-- A payment of 0.60. -/
def partOfInvoice : RegisterAdsPaymentDto := ⟨⟨600000, by decide⟩, "BOB", 31, "TRANSFER", none⟩

def restOfInvoice : RegisterAdsPaymentDto := ⟨⟨400000, by decide⟩, "BOB", 31, "TRANSFER", none⟩

theorem chargedAdsDb_init : adsPayments.init ⟨chargedAdsDb, []⟩ := ⟨⟨rfl, by decide⟩, rfl⟩

/-- One payment after another. -/
theorem paidExactly_of_turns :
    let S := adsPayments.afterIf FindsPayments ⟨chargedAdsDb, []⟩
      (.start 0 (1, partOfInvoice) :: List.replicate 3 (.go 0 ()) ++
        .start 1 (1, restOfInvoice) :: List.replicate 3 (.go 1 ()))
    ∃ i, i ∈ S.committed.invoices.rows ∧ i.status = .paid ∧ PaidExactly S.committed i :=
  ⟨{ chargedInvoice with status := .paid }, by decide, rfl,
    paidExactly_of_reachable (adsPayments.reachable_afterIf FindsPayments chargedAdsDb_init _)
      (Table.mem_rows.mp (by decide)) (by decide)⟩

/-- Both payments sum the same, and both commit: 1.20 is paid of 1.00, and the invoice is not `PAID`. -/
theorem paidExactly_counterexample :
    ∃ S, adsPayments.Reachable (fun _ _ => True) S ∧ ∃ i, i ∈ S.committed.invoices.rows ∧
      0 < i.totalMicros ∧ S.committed.sumPaid i.id = 1200000 ∧ i.totalMicros = 1000000 ∧ i.status = .partiallyPaid ∧
      ¬PaidExactly S.committed i := by
  refine ⟨_, adsPayments.reachable_after chargedAdsDb_init
    ([.start 0 (1, partOfInvoice), .start 1 (1, partOfInvoice), .go 0 (), .go 1 ()] ++ List.replicate 2 (.go 0 ()) ++
      List.replicate 2 (.go 1 ())),
    { chargedInvoice with status := .partiallyPaid }, by decide, by decide, by decide, rfl, rfl, ?_⟩
  intro h
  exact absurd h.within (by decide)

end Examples

end AtlasErp
