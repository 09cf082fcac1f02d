import AtlasErp.Billing.Invoicing
import AtlasErp.Billing.ReceivableBooks
import AtlasErp.Lib.Runs

/-! # What a PAID invoice collected

The status of an invoice follows its receivables, which carry the net amounts; its total also carries the
tax.  The two agree on when the invoice is collected exactly when there is no tax.

- `BillingBooks`: the receivables account for their allocations, an invoice for its receivables;
- `billingBooks_of_reachable`: every run keeps the books;
- `collectedInFull_iff`: an invoice is PAID exactly when its total is collected, in every run from its
  issue, if and only if its tax is zero. -/

namespace AtlasErp

open Lib

/-! ## Billing as a system -/

/-- A new charge. -/
structure ChargeDto where
  accountId : Nat
  sourceType : String
  sourceId : Option Nat
  productId : Option Nat
  amount : Int
  currency : String
  dueDate : Day
  deriving DecidableEq

/-- The receivable of a new charge. -/
def newReceivable (input : ChargeDto) (id : Nat) : MerchantReceivable :=
  ⟨id, input.accountId, none, input.sourceType, input.sourceId, input.productId, input.amount, input.amount,
    input.currency, input.dueDate, .pending⟩

/-- A charge is born open; the table rejects a negative amount. -/
def chargeReceivable (db : BillingDb) (input : ChargeDto) : Except HttpError (Unit × BillingDb) := do
  failIf (input.amount < 0) ⟨.internalServerError, none, "ck_merchant_receivable_amounts"⟩
  return ((), { db with receivables := db.receivables.create (newReceivable input) })

/-- A request, with all it carries. -/
inductive BillingRequest where
  | charge (input : ChargeDto)
  | issueInvoice (input : IssueInvoiceDto) (context : IssueContext)
  | registerMerchantPayment (input : RegisterMerchantPaymentDto)

/-- The tables after a transaction: what it committed, or nothing when it failed. -/
def committedBilling {β : Type} (db : BillingDb) (outcome : Except HttpError (β × BillingDb)) : BillingDb :=
  match outcome with
  | .ok (_, db') => db'
  | .error _ => db

/-- Perform a request as one transaction. -/
def performBilling (db : BillingDb) : BillingRequest → BillingDb
  | .charge input => committedBilling db (chargeReceivable db input)
  | .issueInvoice input context => committedBilling db (issueInvoice db input context)
  | .registerMerchantPayment input => committedBilling db (registerMerchantPayment input db)

/-- All that a request can do. -/
inductive BillingCase (db : BillingDb) : BillingRequest → BillingDb → Prop where
  | rejected {request} : BillingCase db request db
  | charged {input} (amount_nonneg : 0 ≤ input.amount) : BillingCase db (.charge input)
      { db with receivables := db.receivables.create (newReceivable input) }
  | issued {input context invoice db'} (ok : issueInvoice db input context = .ok (invoice, db')) :
      BillingCase db (.issueInvoice input context) db'
  | paid {input result db'} (ok : registerMerchantPayment input db = .ok (result, db')) :
      BillingCase db (.registerMerchantPayment input) db'

theorem performBilling_cases (db : BillingDb) (request : BillingRequest) :
    BillingCase db request (performBilling db request) := by
  cases request with
  | charge input =>
    cases hok : chargeReceivable db input with
    | error e =>
      rw [performBilling, hok]
      exact .rejected
    | ok result =>
      obtain ⟨hamount, hresult⟩ := failIf_bind_eq_ok.mp hok
      rw [performBilling, hok, ← pure_eq_ok.mp hresult]
      exact .charged (not_lt.mp hamount)
  | issueInvoice input context =>
    cases hok : issueInvoice db input context with
    | error e =>
      rw [performBilling, hok]
      exact .rejected
    | ok result =>
      rw [performBilling, hok]
      exact .issued hok
  | registerMerchantPayment input =>
    cases hok : registerMerchantPayment input db with
    | error e =>
      rw [performBilling, hok]
      exact .rejected
    | ok result =>
      rw [performBilling, hok]
      exact .paid hok

/-- Billing before anything is invoiced or paid: the charges are open. -/
structure Unbilled (db : BillingDb) : Prop where
  no_invoices : db.invoices.rows = []
  no_allocations : db.allocations.rows = []
  unbilled : ∀ r ∈ db.receivables, r.invoiceId = none ∧ r.amountOpen = r.amountOriginal ∧ 0 ≤ r.amountOpen

/-- The machine of billing. -/
def billingSystem : Machine BillingDb BillingRequest where
  init := Unbilled
  step db request := some (performBilling db request)

/-! ## The books -/

/-- A charge that can be paid: positive, within the column, in a supported currency. -/
structure Chargeable (r : MerchantReceivable) : Prop where
  pos : 0 < r.amountOriginal
  max : r.amountOriginal ≤ NUMERIC_18_2_MAX_MINOR
  currency : ∃ scale, currencyScale (currencyCode r.currency) = .ok scale

/-- What an invoice says of its receivables. -/
structure InvoiceBooks (db : BillingDb) (i : MerchantInvoice) : Prop where
  subtotal : i.subtotalAmount =
    db.receivables.total fun r => if r.invoiceId = some i.id then r.amountOriginal else 0
  total : i.totalAmount = i.subtotalAmount + i.taxAmount
  tax_nonneg : 0 ≤ i.taxAmount
  not_cancelled : i.status ≠ .cancelled
  nonempty : ∃ r ∈ db.receivables, r.invoiceId = some i.id
  chargeable : ∀ r ∈ db.receivables, r.invoiceId = some i.id → Chargeable r

/-- The books of billing, but for the statuses of the invoices in `stale`. -/
structure BillingBooks (stale : List Nat) (db : BillingDb) : Prop extends ReceivableBooks db where
  owned : ∀ r ∈ db.receivables, ∀ k, r.invoiceId = some k → ∃ i ∈ db.invoices, i.id = k
  invoices : ∀ i ∈ db.invoices, InvoiceBooks db i
  status : ∀ i ∈ db.invoices, i.id ∉ stale → i.status = paymentStatusOf (db.receivablesOf i.id)

section Books

variable {db db' : BillingDb} {stale : List Nat}

theorem Unbilled.books (h : Unbilled db) : BillingBooks [] db := by
  have hnone : ∀ i, i ∉ db.invoices := fun i hi => by
    have hrows : i ∈ db.invoices.rows := hi
    rw [h.no_invoices] at hrows
    cases hrows
  have hallocations : ∀ a, a ∉ db.allocations := fun a ha => by
    have hrows : a ∈ db.allocations.rows := ha
    rw [h.no_allocations] at hrows
    cases hrows
  refine ⟨⟨fun r hr => ?_, fun r hr => ?_, fun a ha => absurd ha (hallocations a), fun r hr _ =>
    (h.unbilled r hr).2.1⟩, fun r hr k hk => ?_, fun i hi => absurd hi (hnone i),
    fun i hi => absurd hi (hnone i)⟩
  · obtain ⟨-, hopen, hnonneg⟩ := h.unbilled r hr
    omega
  · obtain ⟨-, hopen, -⟩ := h.unbilled r hr
    have hzero : db.allocatedTo r.id = 0 := Table.total_eq_zero fun a ha => absurd ha (hallocations a)
    omega
  · rw [(h.unbilled r hr).1] at hk
    cases hk

/-! ## A new charge -/

/-- A new charge belongs to no invoice and has no allocation. -/
theorem BillingBooks.charge (h : BillingBooks [] db) {input : ChargeDto} (hamount : 0 ≤ input.amount) :
    BillingBooks [] { db with receivables := db.receivables.create (newReceivable input) } := by
  have hcreate := fun {x} => @Table.mem_create _ _ db.receivables (newReceivable input) (fun _ => rfl) x
  have hinvoice : ∀ {r k}, r ∈ db.receivables.create (newReceivable input) → r.invoiceId = some k →
      r ∈ db.receivables := by
    intro r k hr hk
    rcases hcreate.mp hr with hr | rfl
    · exact hr
    · cases hk
  refine ⟨⟨fun r hr => ?_, fun r hr => ?_, fun a ha => ?_, fun r hr hpending => ?_⟩, fun r hr k hk => ?_,
    fun i hi => ?_, fun i hi hfresh => ?_⟩
  · rcases hcreate.mp hr with hr | rfl
    · exact h.bounds r hr
    · exact ⟨hamount, le_refl _⟩
  · rcases hcreate.mp hr with hr | rfl
    · exact h.allocated r hr
    · have hzero : db.allocatedTo db.receivables.nextKey = 0 := by
        refine Table.total_eq_zero fun a ha => if_neg fun heq => ?_
        obtain ⟨r, hr, hid⟩ := h.allocations a ha
        have hlt : r.id < db.receivables.nextKey := Table.key_lt_nextKey hr
        omega
      exact hzero.trans (sub_self input.amount).symm
  · obtain ⟨r, hr, hid⟩ := h.allocations a ha
    exact ⟨r, hcreate.mpr (.inl hr), hid⟩
  · rcases hcreate.mp hr with hr | rfl
    · exact h.pending r hr hpending
    · rfl
  · exact h.owned r (hinvoice hr hk) k hk
  · obtain ⟨hsubtotal, htotal, htax, hnc, ⟨r, hr, hk⟩, hchargeable⟩ := h.invoices i hi
    refine ⟨?_, htotal, htax, hnc, ⟨r, hcreate.mpr (.inl hr), hk⟩, fun r hr hk => hchargeable r (hinvoice hr hk) hk⟩
    have hadd := @Table.total_create _ _ db.receivables (newReceivable input)
      (fun r => if r.invoiceId = some i.id then r.amountOriginal else 0) fun _ => rfl
    rw [hsubtotal]
    simpa [newReceivable] using hadd.symm
  · rw [h.status i hi hfresh]
    refine paymentStatusOf_congr fun o a => exists_congr fun r => and_congr_left fun _ => ?_
    rw [mem_receivablesOf, mem_receivablesOf]
    exact ⟨fun hr => ⟨hcreate.mpr (.inl hr.1), hr.2⟩, fun hr => ⟨hinvoice hr.1 hr.2, hr.2⟩⟩

/-! ## A payment -/

/-- An allocation keeps the books, but for the status of the invoice of its receivable. -/
theorem BillingBooks.allocate (h : BillingBooks stale db) {paymentId : Nat} {r : MerchantReceivable}
    {applied : Int} (hr : r ∈ db.receivables) (hpos : 0 < applied) (hfits : applied ≤ r.amountOpen) :
    BillingBooks (touch stale r.invoiceId) (db.allocate paymentId r applied) := by
  refine ⟨h.toReceivableBooks.allocate hr hpos hfits, fun x hx k hk => ?_, fun i hi => ?_,
    fun i hi hfresh => ?_⟩
  · obtain ⟨y, hy, -, hinvoice, -, -⟩ := of_mem_allocate hr hx
    exact h.owned y hy k (hinvoice.trans hk)
  · obtain ⟨hsubtotal, htotal, htax, hnc, ⟨x, hx, hxk⟩, hchargeable⟩ := h.invoices i hi
    obtain ⟨y, hy, -, hyk⟩ := @kept_by_allocate db paymentId r applied hr x hx
    refine ⟨?_, htotal, htax, hnc, ⟨y, hy, hyk.trans hxk⟩, fun x hx hk => ?_⟩
    · have hweight := @Table.total_put _ _ db.receivables r (r.pay applied) hr rfl
        (fun x => if x.invoiceId = some i.id then x.amountOriginal else 0)
      rw [hsubtotal]
      exact (hweight.trans (sub_add_cancel _ _)).symm
    · obtain ⟨y, hy, -, hinvoice, horiginal, hcurrency⟩ := of_mem_allocate hr hx
      obtain ⟨hp, hm, hc⟩ := hchargeable y hy (hinvoice.trans hk)
      exact ⟨horiginal ▸ hp, horiginal ▸ hm, hcurrency ▸ hc⟩
  · simp only [mem_touch, not_or] at hfresh
    rw [h.status i hi hfresh.1, receivablesOf_allocate hr hfresh.2]

/-- A refresh brings the status of its invoice up to date. -/
theorem BillingBooks.refresh {k : Nat} (h : BillingBooks (k :: stale) db) :
    BillingBooks stale (refreshInvoicePaymentStatus db k) := by
  unfold refreshInvoicePaymentStatus
  cases hstatus : refreshedStatus (db.receivablesOf k) (db.invoices.find? k) with
  | none =>
    refine ⟨h.toReceivableBooks, h.owned, h.invoices, fun i hi hfresh => ?_⟩
    by_cases hid : i.id = k
    · -- the invoice is there, has receivables and is not cancelled: it is refreshed
      obtain ⟨-, -, -, hnc, ⟨r, hr, hrk⟩, -⟩ := h.invoices i hi
      have hfind : db.invoices.find? k = some i := Table.find?_eq_some.mpr ⟨hi, hid⟩
      have hnonempty : db.receivablesOf k ≠ [] := by
        rw [hid] at hrk
        exact List.ne_nil_of_mem (mem_receivablesOf.mpr ⟨hr, hrk⟩)
      simp [refreshedStatus, hfind, hnonempty, hnc] at hstatus
    · exact h.status i hi fun hmem => (List.mem_cons.mp hmem).elim hid hfresh
  | some status =>
    have hvalue : status = paymentStatusOf (db.receivablesOf k) := by
      unfold refreshedStatus at hstatus
      split at hstatus
      · cases hstatus
      · split at hstatus
        · cases hstatus
        · exact (Option.some.inj hstatus).symm
    have hupdate := fun {x} => @Table.mem_updateWhere _ _ db.invoices (·.id = k)
      (fun i : MerchantInvoice => { i with status }) (fun _ => rfl) x
    have hinvoices : ∀ i' ∈ (db.setInvoiceStatus k status).invoices, ∃ i ∈ db.invoices, i'.id = i.id ∧
        (InvoiceBooks db i → InvoiceBooks (db.setInvoiceStatus k status) i') ∧
        i'.status = if i.id = k then status else i.status := by
      intro i' hi'
      obtain ⟨i, hi, rfl⟩ := hupdate.mp hi'
      by_cases hid : i.id = k
      · refine ⟨i, hi, by simp [hid], fun hbooks => ?_, by simp [hid]⟩
        obtain ⟨hsubtotal, htotal, htax, -, hnonempty, hchargeable⟩ := hbooks
        simp only [hid, decide_true, if_true]
        exact ⟨hid ▸ hsubtotal, htotal, htax, hvalue ▸ paymentStatusOf_ne_cancelled _, hid ▸ hnonempty,
          hid ▸ hchargeable⟩
      · refine ⟨i, hi, by simp [hid], fun hbooks => ?_, by simp [hid]⟩
        simp only [hid, decide_false, Bool.false_eq_true, if_false]
        exact ⟨hbooks.subtotal, hbooks.total, hbooks.tax_nonneg, hbooks.not_cancelled, hbooks.nonempty,
          hbooks.chargeable⟩
    refine ⟨⟨h.bounds, h.allocated, h.allocations, h.pending⟩, fun r hr j hj => ?_, fun i' hi' => ?_,
      fun i' hi' hfresh => ?_⟩
    · obtain ⟨i, hi, hid⟩ := h.owned r hr j hj
      exact ⟨_, hupdate.mpr ⟨i, hi, rfl⟩, by split <;> exact hid⟩
    · obtain ⟨i, hi, -, hbooks, -⟩ := hinvoices i' hi'
      exact hbooks (h.invoices i hi)
    · obtain ⟨i, hi, hid, -, hstat⟩ := hinvoices i' hi'
      rw [hstat, hid]
      change _ = paymentStatusOf (db.receivablesOf i.id)
      by_cases hk : i.id = k
      · rw [if_pos hk, hvalue, hk]
      · rw [if_neg hk]
        exact h.status i hi fun hmem => (List.mem_cons.mp hmem).elim hk (hid ▸ hfresh)

theorem BillingBooks.refreshAll {touched : List Nat} (h : BillingBooks touched db) :
    BillingBooks [] (touched.foldl refreshInvoicePaymentStatus db) := by
  induction touched generalizing db with
  | nil => exact h
  | cons k touched ih => exact ih h.refresh

theorem BillingBooks.allocateAll {input : RegisterMerchantPaymentDto} {paymentId : Nat}
    {allocations : List AllocationDto} {touched touched' : List Nat} (h : BillingBooks touched db)
    (hfold : allocations.foldlM (applyAllocation input paymentId) (db, touched) = .ok (db', touched')) :
    BillingBooks touched' db' := by
  induction allocations generalizing db touched with
  | nil =>
    obtain ⟨rfl, rfl⟩ := Prod.mk.inj (pure_eq_ok.mp hfold)
    exact h
  | cons allocation allocations ih =>
    rw [List.foldlM_cons] at hfold
    obtain ⟨⟨db₁, touched₁⟩, hstep, hfold⟩ := bind_eq_ok.mp hfold
    obtain ⟨r, applied, hr, -, hpos, hfits, rfl, rfl⟩ := applyAllocation_eq_ok hstep
    exact ih (h.allocate hr hpos hfits) hfold

/-- A payment keeps the books. -/
theorem BillingBooks.pay (h : BillingBooks [] db) {input : RegisterMerchantPaymentDto}
    {result : MerchantPaymentResult} (hok : registerMerchantPayment input db = .ok (result, db')) :
    BillingBooks [] db' := by
  obtain ⟨amount, applied, touched, hfold, rfl⟩ := registerMerchantPayment_cases hok
  have hcreated : BillingBooks [] { db with payments := db.payments.create (newPayment input amount) } :=
    ⟨⟨h.bounds, h.allocated, h.allocations, h.pending⟩, h.owned, fun i hi =>
      let b := h.invoices i hi
      ⟨b.subtotal, b.total, b.tax_nonneg, b.not_cancelled, b.nonempty, b.chargeable⟩, h.status⟩
  exact (hcreated.allocateAll hfold).refreshAll

/-! ## An issue -/

/-- A receivable tied to an invoice. -/
def MerchantReceivable.tie (k : Nat) (r : MerchantReceivable) : MerchantReceivable :=
  { r with invoiceId := some k }

/-- Billing receivables ties them to the invoice and writes their lines; nothing else. -/
theorem foldl_billReceivable (totals : InvoiceTotals) (k : Nat) (receivables : List MerchantReceivable)
    (db : BillingDb) :
    let billed := receivables.foldl (billReceivable totals k) db
    billed.receivables = receivables.foldl (fun t r => t.put (r.tie k)) db.receivables ∧
      billed.invoices = db.invoices ∧ billed.allocations = db.allocations := by
  induction receivables generalizing db with
  | nil => exact ⟨rfl, rfl, rfl⟩
  | cons r receivables ih => exact ih (billReceivable totals k db r)

/-- What an issue does: it adds its invoice and ties the receivables it bills to it. -/
structure IssueEffect (db : BillingDb) (receivables : List MerchantReceivable) (invoice : MerchantInvoice)
    (db' : BillingDb) : Prop where
  billed : ∀ r ∈ receivables, r ∈ db.receivables ∧ r.invoiceId = none ∧ r.status = .pending ∧
    0 < r.amountOpen ∧ r.amountOpen ≤ NUMERIC_18_2_MAX_MINOR ∧
    ∃ scale, currencyScale (currencyCode r.currency) = .ok scale
  nonempty : receivables ≠ []
  id : invoice.id = db.invoices.nextKey
  subtotal : invoice.subtotalAmount = (receivables.map (·.amountOpen)).sum
  total : invoice.totalAmount = invoice.subtotalAmount + invoice.taxAmount
  tax_nonneg : 0 ≤ invoice.taxAmount
  status : invoice.status = .issued
  mem_invoices : ∀ i, i ∈ db'.invoices ↔ i ∈ db.invoices ∨ i = invoice
  mem_receivables : ∀ x, x ∈ db'.receivables ↔
    (∃ r ∈ receivables, x = r.tie invoice.id) ∨ (x ∈ db.receivables ∧ ∀ r ∈ receivables, x.id ≠ r.id)
  weigh : ∀ w : MerchantReceivable → Int, db'.receivables.total w =
    db.receivables.total w + (receivables.map fun r => w (r.tie invoice.id) - w r).sum
  allocations : db'.allocations = db.allocations

/-- What is written on charges that can be billed. -/
theorem issueLocked_effect {input : IssueInvoiceDto} {context : IssueContext} {invoice : MerchantInvoice}
    {receivables : List MerchantReceivable} (h : Issuable db receivables)
    (hok : issueLocked db input context receivables = .ok (invoice, db')) :
    IssueEffect db receivables invoice db' ∧
      applyRatePercent invoice.subtotalAmount context.taxRateUnits = .ok invoice.taxAmount := by
  obtain ⟨totals, htotals, rfl, rfl⟩ := issueLocked_cases hok
  obtain ⟨hcharges, hsubtotal, htax, htax_nonneg, htotal, hscale, hcharge⟩ :=
    computeInvoiceTotals_eq_ok htotals
  obtain ⟨hreceivables, hinvoices, hallocations⟩ := foldl_billReceivable totals db.invoices.nextKey receivables
    { db with invoices := db.invoices.create (newInvoice input context totals) }
  dsimp only at hreceivables hinvoices hallocations
  refine ⟨⟨fun r hr => ?_, fun hnil => hcharges (by rw [hnil]; rfl), rfl, ?_, htotal, htax_nonneg,
    rfl, fun i => ?_, fun x => ?_, fun w => ?_, hallocations⟩, htax⟩
  · obtain ⟨hcode, -, hmax⟩ := hcharge r.charge (List.mem_map_of_mem hr)
    exact ⟨h.mem r hr, h.not_invoiced r hr, h.pending r hr, h.open_pos r hr, hmax, hcode ▸ hscale⟩
  · refine hsubtotal.trans ?_
    rw [List.map_map]
    rfl
  · rw [hinvoices]
    exact Table.mem_create fun _ => rfl
  · rw [hreceivables]
    exact Table.mem_foldl_put (f := MerchantReceivable.tie _) (fun _ => rfl) h.nodup h.mem
  · rw [hreceivables]
    exact Table.total_foldl_put (f := MerchantReceivable.tie _) (fun _ => rfl) w h.nodup h.mem

theorem issueInvoice_effect {input : IssueInvoiceDto} {context : IssueContext} {invoice : MerchantInvoice}
    (hok : issueInvoice db input context = .ok (invoice, db')) :
    ∃ receivables, IssueEffect db receivables invoice db' ∧
      applyRatePercent invoice.subtotalAmount context.taxRateUnits = .ok invoice.taxAmount := by
  obtain ⟨hissuable, -, hlocked⟩ := issueInvoice_cases hok
  exact ⟨_, issueLocked_effect hissuable hlocked⟩

section Issue

variable {receivables : List MerchantReceivable} {invoice : MerchantInvoice}

/-- The receivables of the new invoice are those it bills. -/
theorem IssueEffect.mem_new (h : BillingBooks [] db) (he : IssueEffect db receivables invoice db')
    (x : MerchantReceivable) : x ∈ db'.receivables ∧ x.invoiceId = some invoice.id ↔
      ∃ r ∈ receivables, x = r.tie invoice.id := by
  constructor
  · rintro ⟨hx, hxk⟩
    rcases (he.mem_receivables x).mp hx with hin | ⟨hx, -⟩
    · exact hin
    · obtain ⟨i, hi, hid⟩ := h.owned x hx _ hxk
      have hlt : i.id < db.invoices.nextKey := Table.key_lt_nextKey hi
      exact absurd (hid.trans he.id) (Nat.ne_of_lt hlt)
  · rintro ⟨r, hr, rfl⟩
    exact ⟨(he.mem_receivables _).mpr (.inl ⟨r, hr, rfl⟩), rfl⟩

/-- The receivables of any other invoice are as they were. -/
theorem IssueEffect.mem_old (he : IssueEffect db receivables invoice db') {k : Nat} (hk : k ≠ invoice.id)
    (x : MerchantReceivable) : x ∈ db'.receivables ∧ x.invoiceId = some k ↔
      x ∈ db.receivables ∧ x.invoiceId = some k := by
  constructor
  · rintro ⟨hx, hxk⟩
    rcases (he.mem_receivables x).mp hx with ⟨r, -, rfl⟩ | ⟨hx, -⟩
    · exact absurd (Option.some.inj hxk).symm hk
    · exact ⟨hx, hxk⟩
  · rintro ⟨hx, hxk⟩
    refine ⟨(he.mem_receivables x).mpr (.inr ⟨hx, fun r hr hid => ?_⟩), hxk⟩
    obtain ⟨hr, hnone, -⟩ := he.billed r hr
    obtain rfl : x = r := Table.eq_of_key_eq hx hr hid
    rw [hnone] at hxk
    cases hxk

/-- The invoice of an issue accounts for the receivables it bills. -/
theorem IssueEffect.invoiceBooks (h : BillingBooks [] db) (he : IssueEffect db receivables invoice db') :
    InvoiceBooks db' invoice := by
  have hopen : ∀ r ∈ receivables, r.amountOpen = r.amountOriginal := fun r hr =>
    h.pending r (he.billed r hr).1 (he.billed r hr).2.2.1
  obtain ⟨r₀, hr₀⟩ := List.exists_mem_of_ne_nil receivables he.nonempty
  obtain ⟨hmem₀, htied₀⟩ := (he.mem_new h (r₀.tie invoice.id)).mpr ⟨r₀, hr₀, rfl⟩
  refine ⟨?_, he.total, he.tax_nonneg, ?_, ⟨_, hmem₀, htied₀⟩, fun x hx hxk => ?_⟩
  · have hbefore : (db.receivables.total fun r => if r.invoiceId = some invoice.id then r.amountOriginal
        else 0) = 0 := by
      refine Table.total_eq_zero fun r hr => if_neg fun hrk => ?_
      obtain ⟨i, hi, hid⟩ := h.owned r hr _ hrk
      have hlt : i.id < db.invoices.nextKey := Table.key_lt_nextKey hi
      exact absurd (hid.trans he.id) (Nat.ne_of_lt hlt)
    rw [he.weigh, hbefore, zero_add, he.subtotal]
    refine congrArg List.sum (List.map_congr_left fun r hr => ?_)
    simp [MerchantReceivable.tie, (he.billed r hr).2.1, hopen r hr]
  · rw [he.status]
    nofun
  · obtain ⟨r, hr, rfl⟩ := (he.mem_new h x).mp ⟨hx, hxk⟩
    obtain ⟨-, -, -, hpos, hmax, hscale⟩ := he.billed r hr
    have hsame := hopen r hr
    exact ⟨hsame ▸ hpos, hsame ▸ hmax, hscale⟩

/-- An issue keeps the books. -/
theorem BillingBooks.issue (h : BillingBooks [] db) (he : IssueEffect db receivables invoice db') :
    BillingBooks [] db' := by
  have hbefore : ∀ {x}, x ∈ db'.receivables →
      ∃ r ∈ db.receivables, r = x ∨ r ∈ receivables ∧ x = r.tie invoice.id := by
    intro x hx
    rcases (he.mem_receivables x).mp hx with ⟨r, hr, rfl⟩ | ⟨hx, -⟩
    · exact ⟨r, (he.billed r hr).1, .inr ⟨hr, rfl⟩⟩
    · exact ⟨x, hx, .inl rfl⟩
  have hother : ∀ i ∈ db.invoices, i.id ≠ invoice.id := fun i hi => by
    have hlt : i.id < db.invoices.nextKey := Table.key_lt_nextKey hi
    rw [he.id]
    exact Nat.ne_of_lt hlt
  refine ⟨⟨fun x hx => ?_, fun x hx => ?_, fun a ha => ?_, fun x hx hpending => ?_⟩, fun x hx j hj => ?_,
    fun i hi => ?_, fun i hi _ => ?_⟩
  · obtain ⟨r, hr, rfl | ⟨-, rfl⟩⟩ := hbefore hx <;> exact h.bounds r hr
  · unfold BillingDb.allocatedTo
    rw [he.allocations]
    obtain ⟨r, hr, rfl | ⟨-, rfl⟩⟩ := hbefore hx <;> exact h.allocated r hr
  · rw [he.allocations] at ha
    obtain ⟨r, hr, hid⟩ := h.allocations a ha
    by_cases hin : ∃ r' ∈ receivables, r.id = r'.id
    · obtain ⟨r', hr', hid'⟩ := hin
      exact ⟨r'.tie invoice.id, (he.mem_receivables _).mpr (.inl ⟨r', hr', rfl⟩), hid'.symm.trans hid⟩
    · exact ⟨r, (he.mem_receivables r).mpr (.inr ⟨hr, fun r' hr' hid' => hin ⟨r', hr', hid'⟩⟩), hid⟩
  · obtain ⟨r, hr, rfl | ⟨-, rfl⟩⟩ := hbefore hx <;> exact h.pending r hr hpending
  · obtain ⟨r, hr, rfl | ⟨-, rfl⟩⟩ := hbefore hx
    · obtain ⟨i, hi, hid⟩ := h.owned r hr j hj
      exact ⟨i, (he.mem_invoices i).mpr (.inl hi), hid⟩
    · exact ⟨invoice, (he.mem_invoices _).mpr (.inr rfl), Option.some.inj hj⟩
  · rcases (he.mem_invoices i).mp hi with hi | rfl
    · obtain ⟨hsub, htot, htx, hnc, ⟨r, hr, hrk⟩, hchargeable⟩ := h.invoices i hi
      refine ⟨?_, htot, htx, hnc, ⟨r, (he.mem_old (hother i hi) r).mpr ⟨hr, hrk⟩⟩, fun x hx hxi =>
        let hx := (he.mem_old (hother i hi) x).mp ⟨hx, hxi⟩
        hchargeable x hx.1 hx.2⟩
      rw [hsub, he.weigh]
      refine (add_eq_left.mpr (List.sum_eq_zero fun y hy => ?_)).symm
      obtain ⟨r, hr, rfl⟩ := List.mem_map.mp hy
      simp [MerchantReceivable.tie, (he.billed r hr).2.1, (hother i hi).symm]
    · exact he.invoiceBooks h
  · rcases (he.mem_invoices i).mp hi with hi | rfl
    · rw [h.status i hi List.not_mem_nil]
      refine paymentStatusOf_congr fun o a => exists_congr fun x => and_congr_left fun _ => ?_
      rw [mem_receivablesOf, mem_receivablesOf, he.mem_old (hother i hi)]
    · obtain ⟨r, hr, hrk⟩ := (he.invoiceBooks h).nonempty
      rw [he.status]
      refine (paymentStatusOf_issued (List.ne_nil_of_mem (mem_receivablesOf.mpr ⟨hr, hrk⟩))
        fun x hx => ?_).symm
      obtain ⟨r, hr, rfl⟩ := (he.mem_new h x).mp (mem_receivablesOf.mp hx)
      obtain ⟨hmem, -, hpending, hpos, -⟩ := he.billed r hr
      exact ⟨hpos, h.pending r hmem hpending⟩

end Issue

/-- **The books of billing** are kept by every request. -/
theorem BillingBooks.perform (h : BillingBooks [] db) (request : BillingRequest) :
    BillingBooks [] (performBilling db request) := by
  have hcase := performBilling_cases db request
  generalize performBilling db request = db' at hcase ⊢
  cases hcase with
  | rejected => exact h
  | charged hamount => exact h.charge hamount
  | issued hok =>
    obtain ⟨receivables, heffect, -⟩ := issueInvoice_effect hok
    exact h.issue heffect
  | paid hok => exact h.pay hok

theorem billingBooks_of_reachable (h : billingSystem.Reachable (fun _ _ => True) db) :
    BillingBooks [] db := by
  refine Machine.invariant (P := BillingBooks []) (fun _ hinit => Unbilled.books hinit) (fun _ _ _ _ hstep hbooks => ?_) h
  obtain rfl := Option.some.inj hstep
  exact hbooks.perform _

/-! ## PAID and what is collected -/

/-- **PAID means that the net is collected.** The tax is not looked at. -/
theorem BillingBooks.paid_iff (h : BillingBooks [] db) {i : MerchantInvoice} (hi : i ∈ db.invoices) :
    i.status = .paid ↔ db.allocatedToInvoice i.id = i.subtotalAmount := by
  have hsubtotal : i.subtotalAmount = db.billedOn i.id := by
    rw [(h.invoices i hi).subtotal]
    exact (Table.total_congr fun r _ => by simp).trans (Table.sum_rowsWhere _ _).symm
  have hbounds : ∀ r ∈ db.receivablesOf i.id, 0 ≤ r.amountOpen := fun r hr =>
    (h.bounds r (mem_receivablesOf.mp hr).1).1
  have hopen : 0 ≤ ((db.receivablesOf i.id).map (·.amountOpen)).sum := by
    refine List.sum_nonneg fun a ha => ?_
    obtain ⟨r, hr, rfl⟩ := List.mem_map.mp ha
    exact hbounds r hr
  have hpos := @sum_pos_iff _ (fun r => r.amountOpen) hbounds
  have hzero : (∀ r ∈ db.receivablesOf i.id, r.amountOpen = 0) ↔
      ¬∃ r ∈ db.receivablesOf i.id, 0 < r.amountOpen := by
    constructor
    · rintro hall ⟨r, hr, hlt⟩
      exact absurd (hall r hr) (ne_of_gt hlt)
    · exact fun hnone r hr => le_antisymm (not_lt.mp fun hlt => hnone ⟨r, hr, hlt⟩) (hbounds r hr)
  rw [h.status i hi List.not_mem_nil, paymentStatusOf_eq_paid, hzero, ← hpos, hsubtotal,
    (h.allocatedToInvoice_eq i.id).2]
  omega

/-- Only the statuses of the invoices change. -/
def KeepsInvoices (db db' : BillingDb) : Prop :=
  ∀ i ∈ db.invoices, ∃ status, { i with status } ∈ db'.invoices

theorem KeepsInvoices.refl (db : BillingDb) : KeepsInvoices db db := fun i hi => ⟨i.status, hi⟩

theorem KeepsInvoices.trans {db₁ db₂ db₃ : BillingDb} (h : KeepsInvoices db₁ db₂)
    (h' : KeepsInvoices db₂ db₃) : KeepsInvoices db₁ db₃ := by
  intro i hi
  obtain ⟨status, hi⟩ := h i hi
  obtain ⟨status', hi⟩ := h' _ hi
  exact ⟨status', hi⟩

theorem keepsInvoices_refresh (db : BillingDb) (k : Nat) :
    KeepsInvoices db (refreshInvoicePaymentStatus db k) := by
  unfold refreshInvoicePaymentStatus
  split
  · exact .refl db
  · rename_i status _
    intro i hi
    have hupdate := fun {x} => @Table.mem_updateWhere _ _ db.invoices (·.id = k)
      (fun i : MerchantInvoice => { i with status }) (fun _ => rfl) x
    by_cases hid : i.id = k
    · exact ⟨status, hupdate.mpr ⟨i, hi, by simp [hid]⟩⟩
    · exact ⟨i.status, hupdate.mpr ⟨i, hi, by simp [hid]⟩⟩

theorem keepsInvoices_refreshAll (touched : List Nat) (db : BillingDb) :
    KeepsInvoices db (touched.foldl refreshInvoicePaymentStatus db) := by
  induction touched generalizing db with
  | nil => exact .refl db
  | cons k touched ih => exact (keepsInvoices_refresh db k).trans (ih _)

theorem invoices_allocateAll {input : RegisterMerchantPaymentDto} {paymentId : Nat}
    {allocations : List AllocationDto} {touched touched' : List Nat}
    (hfold : allocations.foldlM (applyAllocation input paymentId) (db, touched) = .ok (db', touched')) :
    db'.invoices = db.invoices := by
  induction allocations generalizing db touched with
  | nil =>
    obtain ⟨rfl, rfl⟩ := Prod.mk.inj (pure_eq_ok.mp hfold)
    rfl
  | cons allocation allocations ih =>
    rw [List.foldlM_cons] at hfold
    obtain ⟨⟨db₁, touched₁⟩, hstep, hfold⟩ := bind_eq_ok.mp hfold
    obtain ⟨r, applied, -, -, -, -, hdb, -⟩ := applyAllocation_eq_ok hstep
    rw [ih hfold, hdb]
    rfl

/-- No request changes the amounts of an invoice. -/
theorem keepsInvoices_perform (db : BillingDb) (request : BillingRequest) :
    KeepsInvoices db (performBilling db request) := by
  have hcase := performBilling_cases db request
  generalize performBilling db request = db' at hcase ⊢
  cases hcase with
  | rejected => exact .refl db
  | charged => exact .refl db
  | issued hok =>
    obtain ⟨receivables, heffect, -⟩ := issueInvoice_effect hok
    exact fun i hi => ⟨i.status, (heffect.mem_invoices i).mpr (.inl hi)⟩
  | paid hok =>
    obtain ⟨amount, applied, touched, hfold, hresult⟩ := registerMerchantPayment_cases hok
    have hsame := invoices_allocateAll hfold
    rw [hresult]
    refine KeepsInvoices.trans (fun i hi => ⟨i.status, ?_⟩) (keepsInvoices_refreshAll touched applied)
    rw [hsame]
    exact hi

theorem keepsInvoices_run (requests : List BillingRequest) (db : BillingDb) :
    KeepsInvoices db (requests.foldl performBilling db) := by
  induction requests generalizing db with
  | nil => exact .refl db
  | cons request requests ih => exact (keepsInvoices_perform db request).trans (ih _)

theorem BillingBooks.run (h : BillingBooks [] db) (requests : List BillingRequest) :
    BillingBooks [] (requests.foldl performBilling db) := by
  induction requests generalizing db with
  | nil => exact h
  | cons request requests ih => exact ih (h.perform request)

/-! ## Paying a receivable off -/

/-- A run of payments. -/
def performPayments (db : BillingDb) (payments : List RegisterMerchantPaymentDto) : BillingDb :=
  (payments.map .registerMerchantPayment).foldl performBilling db

/-- The payment of all that is open of a receivable. -/
def payOff (r : MerchantReceivable) : RegisterMerchantPaymentDto :=
  ⟨r.accountId, r.amountOpen, currencyCode r.currency, 0, none, none, [⟨r.id, r.amountOpen⟩]⟩

theorem receivables_refreshAll (touched : List Nat) (db : BillingDb) :
    (touched.foldl refreshInvoicePaymentStatus db).receivables = db.receivables := by
  induction touched generalizing db with
  | nil => rfl
  | cons k touched ih =>
    rw [List.foldl_cons, ih]
    unfold refreshInvoicePaymentStatus
    split <;> rfl

/-- Such a payment is accepted, and leaves nothing open of the receivable. -/
theorem perform_payOff {r : MerchantReceivable} (hr : r ∈ db.receivables) (hpos : 0 < r.amountOpen)
    (hmax : r.amountOpen ≤ NUMERIC_18_2_MAX_MINOR) {scale : Nat}
    (hscale : currencyScale (currencyCode r.currency) = .ok scale) :
    (performBilling db (.registerMerchantPayment (payOff r))).receivables =
      db.receivables.put (r.pay r.amountOpen) := by
  have hamount := parseMoney_of_pos hscale hpos hmax false
  have hfind : db.receivables.findBy (fun x => x.id = r.id ∧ x.accountId = r.accountId) = some r :=
    Table.findBy_unique hr (by simp) fun x _ hx => (of_decide_eq_true hx).1
  have hmatch : allocationsMatchPayment r.amountOpen [r.amountOpen] (currencyCode r.currency) = .ok true := by
    simp [allocationsMatchPayment, hamount]
  have hcheck : checkAllocation (payOff r) r ⟨r.id, r.amountOpen⟩ = .ok r.amountOpen := by
    simp [payOff, checkAllocation, hamount, failIf, liftMoney, Except.mapError]
  unfold payOff at hcheck
  simp only [performBilling, payOff, registerMerchantPayment, checkPayment, List.map_cons, List.map_nil, hmatch, liftMoney,
    Except.mapError, ok_bind, failIf, hamount, List.foldlM_cons, List.foldlM_nil, applyAllocation, lockReceivable,
    hfind, orFail_some, hcheck]
  simp [committedBilling, receivables_refreshAll, BillingDb.allocate]

/-- Paying several receivables off, one payment after the other. -/
theorem run_payOff {l : List MerchantReceivable} (hl : (l.map HasKey.key).Nodup)
    (hmem : ∀ r ∈ l, r ∈ db.receivables) (hpayable : ∀ r ∈ l, 0 < r.amountOpen ∧
      r.amountOpen ≤ NUMERIC_18_2_MAX_MINOR ∧ ∃ scale, currencyScale (currencyCode r.currency) = .ok scale) :
    (performPayments db (l.map payOff)).receivables =
      l.foldl (fun t r => t.put (r.pay r.amountOpen)) db.receivables := by
  induction l generalizing db with
  | nil => rfl
  | cons r l ih =>
    rw [List.map_cons, List.nodup_cons] at hl
    obtain ⟨hpos, hmax, scale, hscale⟩ := hpayable r List.mem_cons_self
    have hr := hmem r List.mem_cons_self
    have hput := perform_payOff hr hpos hmax hscale
    have hfirst : performPayments db ((r :: l).map payOff) =
        performPayments (performBilling db (.registerMerchantPayment (payOff r))) (l.map payOff) := by
      simp only [performPayments, List.map_cons, List.foldl_cons]
    rw [hfirst, List.foldl_cons, ← hput]
    refine ih hl.2 (fun x hx => ?_) fun x hx => hpayable x (List.mem_cons_of_mem r hx)
    have hne : x.id ≠ r.id := fun heq => hl.1 (List.mem_map.mpr ⟨x, hx, heq⟩)
    rw [hput]
    exact (Table.mem_put (r := r.pay r.amountOpen) hr rfl).mpr (.inr ⟨hmem x (List.mem_cons_of_mem r hx), hne⟩)

/-- **An issued invoice can be paid off**: after one payment for each of its receivables it is PAID. -/
theorem paid_of_payOff (h : BillingBooks [] db) {i : MerchantInvoice} (hi : i ∈ db.invoices)
    (hissued : ∀ r ∈ db.receivablesOf i.id, 0 < r.amountOpen) :
    { i with status := .paid } ∈ (performPayments db ((db.receivablesOf i.id).map payOff)).invoices := by
  have hnodup : ((db.receivablesOf i.id).map HasKey.key).Nodup :=
    db.receivables.nodup.sublist (List.filter_sublist.map _)
  have hmem : ∀ r ∈ db.receivablesOf i.id, r ∈ db.receivables := fun r hr => (mem_receivablesOf.mp hr).1
  have hrun := run_payOff hnodup hmem fun r hr => by
    obtain ⟨hr', hk⟩ := mem_receivablesOf.mp hr
    obtain ⟨-, hmax, hscale⟩ := (h.invoices i hi).chargeable r hr' hk
    exact ⟨hissued r hr, le_trans (h.bounds r hr').2 hmax, hscale⟩
  generalize hdb' : performPayments db ((db.receivablesOf i.id).map payOff) = db' at hrun ⊢
  have hbooks : BillingBooks [] db' := hdb' ▸ h.run _
  have hkeeps : KeepsInvoices db db' := hdb' ▸ keepsInvoices_run _ db
  obtain ⟨status, hstatus⟩ := hkeeps i hi
  have hfresh : status = paymentStatusOf (db'.receivablesOf i.id) := hbooks.status _ hstatus List.not_mem_nil
  rw [paymentStatusOf, if_pos] at hfresh
  · rwa [hfresh] at hstatus
  refine List.all_eq_true.mpr fun x hx => decide_eq_true ?_
  obtain ⟨hx, hk⟩ := mem_receivablesOf.mp hx
  rw [hrun, Table.mem_foldl_put (f := fun r => r.pay r.amountOpen) (fun _ => rfl) hnodup hmem] at hx
  rcases hx with ⟨r, -, rfl⟩ | ⟨hx, hne⟩
  · exact sub_self r.amountOpen
  · exact absurd rfl (hne x (mem_receivablesOf.mpr ⟨hx, hk⟩))

end Books

/-! ## The tax -/

/-- An invoice is PAID exactly when the allocations on its receivables add up to its total. -/
def CollectedInFull (db : BillingDb) (invoiceId : Nat) : Prop :=
  ∀ i ∈ db.invoices, i.id = invoiceId → (i.status = .paid ↔ db.allocatedToInvoice invoiceId = i.totalAmount)

section Tax

variable {db db' : BillingDb} {input : IssueInvoiceDto} {context : IssueContext} {invoice : MerchantInvoice}

/-- Without tax, PAID means collected in full in every run from the issue. -/
theorem collectedInFull_of_untaxed (h : BillingBooks [] db') (hmem : invoice ∈ db'.invoices)
    (htax : invoice.taxAmount = 0) (requests : List BillingRequest) :
    CollectedInFull (requests.foldl performBilling db') invoice.id := by
  intro i hi hid
  have hrun := h.run requests
  obtain ⟨status, hkept⟩ := keepsInvoices_run requests db' invoice hmem
  obtain rfl : i = { invoice with status } := Table.eq_of_key_eq hi hkept hid
  have htotal := (h.invoices invoice hmem).total
  rw [htax, add_zero] at htotal
  rw [hrun.paid_iff hi]
  dsimp only
  rw [htotal]

/-- Once everything is paid off, what is collected is the net. -/
theorem untaxed_of_collectedInFull (h : BillingBooks [] db') (hmem : invoice ∈ db'.invoices)
    (hopen : ∀ r ∈ db'.receivablesOf invoice.id, 0 < r.amountOpen)
    (hall : ∀ payments, CollectedInFull (performPayments db' payments) invoice.id) :
    invoice.taxAmount = 0 := by
  have hpaid := paid_of_payOff h hmem hopen
  have hnet := ((h.run _).paid_iff hpaid).mp rfl
  have htotal := (hall _ _ hpaid rfl).mp rfl
  have hsum := (h.invoices invoice hmem).total
  dsimp only [performPayments] at hnet htotal
  omega

/-- **PAID means collected in full exactly when there is no tax.** From the issue of an invoice, it is PAID
if and only if its total is collected, in every run, or in every run of payments, exactly when the tax on its
subtotal is zero. -/
theorem collectedInFull_iff (h : billingSystem.Reachable (fun _ _ => True) db)
    (hissue : issueInvoice db input context = .ok (invoice, db')) :
    ((∀ requests : List BillingRequest, CollectedInFull (requests.foldl performBilling db') invoice.id) ↔
      applyRatePercent invoice.subtotalAmount context.taxRateUnits = .ok 0) ∧
    ((∀ payments, CollectedInFull (performPayments db' payments) invoice.id) ↔
      applyRatePercent invoice.subtotalAmount context.taxRateUnits = .ok 0) := by
  obtain ⟨receivables, heffect, htax⟩ := issueInvoice_effect hissue
  have hbefore := billingBooks_of_reachable h
  have hbooks := hbefore.issue heffect
  have hmem : invoice ∈ db'.invoices := (heffect.mem_invoices _).mpr (.inr rfl)
  have hopen : ∀ r ∈ db'.receivablesOf invoice.id, 0 < r.amountOpen := by
    intro r hr
    obtain ⟨charged, hcharged, rfl⟩ := (heffect.mem_new hbefore r).mp (mem_receivablesOf.mp hr)
    exact (heffect.billed charged hcharged).2.2.2.1
  rw [htax, Except.ok.injEq]
  exact ⟨⟨fun hall => untaxed_of_collectedInFull hbooks hmem hopen fun payments => hall _,
      collectedInFull_of_untaxed hbooks hmem⟩,
    ⟨untaxed_of_collectedInFull hbooks hmem hopen,
      fun hzero payments => collectedInFull_of_untaxed hbooks hmem hzero _⟩⟩

end Tax

/-- A monthly fee of 100.00. -/
def monthlyFee : BillingDb where
  products := []
  receivables := ⟨[⟨1, 7, none, "MONTHLY_FEE", none, none, 10000, 10000, "BOB", 0, .pending⟩], by decide⟩
  invoices := .empty
  invoiceLines := .empty
  payments := .empty
  allocations := .empty

theorem unbilled_monthlyFee : Unbilled monthlyFee where
  no_invoices := rfl
  no_allocations := rfl
  unbilled := by
    intro r hr
    obtain rfl := List.mem_singleton.mp hr
    decide

/-- The invoice of the fee. -/
def monthlyFeeInvoice (tax : Int) : MerchantInvoice :=
  ⟨1, 7, none, "F-1", 0, 30, 10000, tax, 10000 + tax, .issued, none⟩

/-- The fee once it is billed. -/
def monthlyFeeBilled (tax : Int) : BillingDb where
  products := []
  receivables := ⟨[⟨1, 7, some 1, "MONTHLY_FEE", none, none, 10000, 10000, "BOB", 0, .pending⟩], by decide⟩
  invoices := ⟨[monthlyFeeInvoice tax], List.nodup_singleton _⟩
  invoiceLines := ⟨[⟨1, 1, "MONTHLY_FEE", none, none, "Cargo MONTHLY_FEE", "1.0000", 10000, tax, 10000 + tax⟩],
    List.nodup_singleton _⟩
  payments := .empty
  allocations := .empty

/-- Untaxed, the fee is PAID exactly when its total is collected, as after a payment of 100.00. -/
theorem collectedInFull_iff_untaxedFee :
    (performPayments (monthlyFeeBilled 0) [⟨7, 10000, "BOB", 0, none, none, [⟨1, 10000⟩]⟩]).invoices.rows.map
      (·.status) = [.paid] ∧
    ∀ requests : List BillingRequest, CollectedInFull (requests.foldl performBilling (monthlyFeeBilled 0)) 1 := by
  have hissue : issueInvoice monthlyFee ⟨7, none, 0, 30, [1], none⟩ ⟨0, "F-1", .ok ()⟩ =
      .ok (monthlyFeeInvoice 0, monthlyFeeBilled 0) := by decide
  exact ⟨by decide, (collectedInFull_iff (.of_init unbilled_monthlyFee) hissue).1.mpr (by decide)⟩

/-- With 13 % of tax the total is 113.00, and a payment of 100.00 makes the invoice PAID. -/
theorem collectedInFull_taxedFee :
    issueInvoice monthlyFee ⟨7, none, 0, 30, [1], none⟩ ⟨13000000, "F-1", .ok ()⟩ =
      .ok (monthlyFeeInvoice 1300, monthlyFeeBilled 1300) ∧
    ¬CollectedInFull (performPayments (monthlyFeeBilled 1300)
      [⟨7, 10000, "BOB", 0, none, none, [⟨1, 10000⟩]⟩]) 1 := by
  refine ⟨by decide, fun h => ?_⟩
  have hpaid : { monthlyFeeInvoice 1300 with status := .paid } ∈ (performPayments (monthlyFeeBilled 1300)
      [⟨7, 10000, "BOB", 0, none, none, [⟨1, 10000⟩]⟩]).invoices.rows := by decide
  have hcollected := (h _ hpaid rfl).mp rfl
  revert hcollected
  decide

end AtlasErp
