import AtlasErp.Ads.Sessions

/-! # What an invoice of a period bills

Every ledger entry is billed once and for its net, and the merchant is charged what the invoice says.

- `BilledOnce`: the property, and `PeriodBooks`: the invariant;
- `PeriodBooks.addEntry`, `PeriodBooks.recordInvoice`: what a ledger entry and an invoice keep. -/

namespace AtlasErp

open Lib

/-! ## The property -/

section Property

/-- The ledger entries that an invoice is for: those of its advertiser, currency and period. -/
def AdsInvoice.bills (i : AdsInvoice) (l : SpendLedgerEntry) : Bool :=
  isBilled i.periodStart i.periodEnd (some i.advertiserId) l && l.currency = i.currency

variable (db : AdsDb)

/-- What the merchant is charged for an invoice, in cents. -/
def AdsDb.receivableCents (invoiceId : Nat) : Int :=
  db.receivables.total fun r => if r.sourceId = some invoiceId then r.amountOriginal else 0

/-- The number of charges for an invoice. -/
def AdsDb.receivableCount (invoiceId : Nat) : Int :=
  db.receivables.total fun r => if r.sourceId = some invoiceId then 1 else 0

/-- An invoice charges the net of its entries, and so does the merchant's account, up to half a cent for
each charge. -/
structure ChargesNet (i : AdsInvoice) : Prop where
  net : i.subtotalMicros = (i.entries.map (·.amountMicros)).sum
  receivables : |db.receivableCents i.id * 10000 - i.subtotalMicros| ≤ 5000 * db.receivableCount i.id

/-- Each ledger entry is billed once, and for its net. -/
structure BilledOnce : Prop where
  once : ∀ i ∈ db.invoices, ∀ j ∈ db.invoices, i.status ≠ .void → j.status ≠ .void →
    ∀ l ∈ db.ledger, l ∈ i.entries → l ∈ j.entries → i = j
  complete : ∀ i ∈ db.invoices, i.status ≠ .void → ∀ l ∈ db.ledger, i.bills l = true → l ∈ i.entries
  charges : ∀ i ∈ db.invoices, ChargesNet db i

/-- Before the first closing, with any ledger. -/
def NoAdsInvoices : Prop := db.invoices = .empty ∧ ∀ r ∈ db.receivables, r.sourceId = none

/-- The invariant. -/
structure PeriodBooks : Prop where
  billed : ∀ i ∈ db.invoices, i.status ≠ .void → ∀ l, l ∈ i.entries ↔ l ∈ db.ledger ∧ i.bills l = true
  apart : ∀ i ∈ db.invoices, ∀ j ∈ db.invoices, i.status ≠ .void → j.status ≠ .void →
    i.advertiserId = j.advertiserId → i.currency = j.currency → i.overlaps j.periodStart j.periodEnd = true → i = j
  charges : ∀ i ∈ db.invoices, ChargesNet db i
  sources : ∀ r ∈ db.receivables, ∀ id, r.sourceId = some id → ∃ i ∈ db.invoices, i.id = id

variable {db}

theorem PeriodBooks.of_noInvoices (h : NoAdsInvoices db) : PeriodBooks db := by
  obtain ⟨hinvoices, hreceivables⟩ := h
  have hnone : ∀ i, i ∉ db.invoices := by simp [hinvoices]
  refine ⟨fun i hi => absurd hi (hnone i), fun i hi => absurd hi (hnone i), fun i hi => absurd hi (hnone i),
    fun r hr id hid => ?_⟩
  rw [hreceivables r hr] at hid
  cases hid

/-- Two invoices for one entry are for one advertiser and currency, and for periods that overlap. -/
theorem overlaps_of_bills {i j : AdsInvoice} {l : SpendLedgerEntry} (hi : i.bills l = true) (hj : j.bills l = true)
    (hlive : i.status ≠ .void) :
    i.advertiserId = j.advertiserId ∧ i.currency = j.currency ∧ i.overlaps j.periodStart j.periodEnd = true := by
  simp only [AdsInvoice.bills, isBilled, Bool.and_eq_true, decide_eq_true_eq, Option.all_some] at hi hj
  obtain ⟨⟨⟨-, hperiod⟩, hadvertiser⟩, hcurrency⟩ := hi
  obtain ⟨⟨⟨-, hperiod'⟩, hadvertiser'⟩, hcurrency'⟩ := hj
  refine ⟨hadvertiser.trans hadvertiser'.symm, hcurrency.symm.trans hcurrency', ?_⟩
  simp only [AdsInvoice.overlaps, decide_eq_true_eq]
  exact ⟨start_le_end hperiod hperiod', start_le_end hperiod' hperiod, hlive⟩

theorem PeriodBooks.billedOnce (h : PeriodBooks db) : BilledOnce db where
  once i hi j hj hlive hlive' l _ hli hlj := by
    obtain ⟨hadvertiser, hcurrency, hoverlap⟩ :=
      overlaps_of_bills ((h.billed i hi hlive l).mp hli).2 ((h.billed j hj hlive' l).mp hlj).2 hlive
    exact h.apart i hi j hj hlive hlive' hadvertiser hcurrency hoverlap
  complete i hi hlive l hl hbills := (h.billed i hi hlive l).mpr ⟨hl, hbills⟩
  charges := h.charges

end Property

/-! ## Entries of a journal -/

section Writes

variable {config : AdsConfig} {db : AdsDb}

/-- No invoice is for an entry of an advertiser in a currency at a time. -/
def Uninvoiced (db : AdsDb) (advertiserId : Nat) (currency : String) (occurredAt : Instant) : Prop :=
  ∀ i ∈ db.invoices, i.status ≠ .void →
    ¬(i.advertiserId = advertiserId ∧ i.currency = currency ∧
      inPeriod i.periodStart i.periodEnd occurredAt = true)

instance (advertiserId : Nat) (currency : String) (occurredAt : Instant) :
    Decidable (Uninvoiced db advertiserId currency occurredAt) :=
  inferInstanceAs (Decidable (∀ i ∈ db.invoices.rows, _ → _))

theorem Uninvoiced.not_bills {advertiserId : Nat} {currency : String} {occurredAt : Instant}
    (h : Uninvoiced db advertiserId currency occurredAt) {l : SpendLedgerEntry}
    (hadvertiser : l.advertiserId = advertiserId) (hcurrency : l.currency = currency)
    (hoccurred : l.occurredAt = occurredAt) {i : AdsInvoice} (hi : i ∈ db.invoices) (hlive : i.status ≠ .void) :
    i.bills l = false := by
  have hnot := h i hi hlive
  subst hadvertiser hcurrency hoccurred
  by_contra hbills
  simp only [AdsInvoice.bills, isBilled, Bool.not_eq_false, Bool.and_eq_true, decide_eq_true_eq,
    Option.all_some] at hbills
  exact hnot ⟨hbills.1.2, hbills.2.symm, hbills.1.1.2⟩

/-- A ledger entry that no invoice is for. -/
theorem PeriodBooks.addEntry {db' : AdsDb} (h : PeriodBooks db) {entry : Nat → SpendLedgerEntry}
    (hentry : ∀ k, (entry k).id = k) (hledger : db'.ledger = db.ledger.create entry)
    (hinvoices : db'.invoices = db.invoices) (hreceivables : db'.receivables = db.receivables)
    (hfree : ∀ i ∈ db.invoices, i.status ≠ .void → i.bills (entry db.ledger.nextKey) = false) :
    PeriodBooks db' := by
  refine ⟨fun i hi hlive l => ?_, ?_, fun i hi => ?_, ?_⟩
  · rw [hinvoices] at hi
    rw [h.billed i hi hlive l, hledger, Table.mem_create hentry]
    constructor
    · rintro ⟨hl, hbills⟩
      exact ⟨.inl hl, hbills⟩
    · rintro ⟨hl | rfl, hbills⟩
      · exact ⟨hl, hbills⟩
      · rw [hfree i hi hlive] at hbills
        cases hbills
  · rw [hinvoices]
    exact h.apart
  · rw [hinvoices] at hi
    have hcharges := h.charges i hi
    refine ⟨hcharges.net, ?_⟩
    rw [AdsDb.receivableCents, AdsDb.receivableCount, hreceivables]
    exact hcharges.receivables
  · rw [hinvoices, hreceivables]
    exact h.sources

/-- A draft that can be written: no other invoice overlaps it, its entries are those of the ledger, and
its charges are its net. -/
structure DraftFits (db : AdsDb) (draft : AdsInvoice) (charges : List MerchantCharge) : Prop where
  free : ∀ i ∈ db.invoices, i.status ≠ .void → i.advertiserId = draft.advertiserId → i.currency = draft.currency →
    i.overlaps draft.periodStart draft.periodEnd = false
  entries : draft.entries = db.ledger.rowsWhere draft.bills
  net : draft.subtotalMicros = (draft.entries.map (·.amountMicros)).sum
  close : |(charges.map (·.amount)).sum * 10000 - draft.subtotalMicros| ≤ 5000 * charges.length

/-- **An invoice** and its charges. -/
theorem PeriodBooks.recordInvoice (h : PeriodBooks db) {draft : AdsInvoice} {charges : List MerchantCharge}
    (hdraft : DraftFits db draft charges) :
    PeriodBooks (db.recordInvoice (fun id => { draft with id }) charges) := by
  have hmem : ∀ i, i ∈ (db.recordInvoice (fun id => { draft with id }) charges).invoices ↔
      i ∈ db.invoices ∨ i = { draft with id := db.invoices.nextKey } := fun i => Table.mem_create fun _ => rfl
  have htotal : ∀ (w : MerchantReceivable → Int) (v : MerchantCharge → Int),
      (∀ c k, w (receivableOf { draft with id := db.invoices.nextKey } c k) = v c) →
      (db.recordInvoice (fun id => { draft with id }) charges).receivables.total w =
        db.receivables.total w + (charges.map v).sum :=
    fun w v hv => Table.total_foldl_create (fun _ _ => rfl) hv charges
  have hfresh : ∀ i ∈ db.invoices, i.id ≠ db.invoices.nextKey := fun i hi => Nat.ne_of_lt (Table.key_lt_nextKey hi)
  refine ⟨fun i hi hlive l => ?_, fun i hi j hj hlive hlive' hadv hcur hover => ?_, fun i hi => ?_,
    fun r hr id hid => ?_⟩
  · rcases (hmem i).mp hi with hi | rfl
    · exact h.billed i hi hlive l
    · show l ∈ draft.entries ↔ _
      rw [hdraft.entries, Table.mem_rowsWhere]
      rfl
  · rcases (hmem i).mp hi with hi | rfl <;> rcases (hmem j).mp hj with hj | rfl
    · exact h.apart i hi j hj hlive hlive' hadv hcur hover
    · rw [hdraft.free i hi hlive hadv hcur] at hover
      cases hover
    · have hfree := hdraft.free j hj hlive' hadv.symm hcur.symm
      simp only [AdsInvoice.overlaps, decide_eq_true_eq, decide_eq_false_iff_not] at hover hfree
      exact absurd ⟨hover.2.1, hover.1, hlive'⟩ hfree
    · rfl
  · rcases (hmem i).mp hi with hi | rfl
    · have hcharges := h.charges i hi
      refine ⟨hcharges.net, ?_⟩
      rw [AdsDb.receivableCents, AdsDb.receivableCount,
        htotal _ (fun _ => 0) fun c k => if_neg fun heq => hfresh i hi (Option.some.inj heq).symm,
        htotal _ (fun _ => 0) fun c k => if_neg fun heq => hfresh i hi (Option.some.inj heq).symm]
      simpa [AdsDb.receivableCents, AdsDb.receivableCount] using hcharges.receivables
    · -- no receivable named the new invoice before
      have hnone : ∀ v : MerchantReceivable → Int,
          (db.receivables.total fun r => if r.sourceId = some db.invoices.nextKey then v r else 0) = 0 := by
        intro v
        refine Table.total_eq_zero fun r hr => if_neg fun heq => ?_
        obtain ⟨i, hi, hid⟩ := h.sources r hr _ heq
        exact hfresh i hi hid
      refine ⟨hdraft.net, ?_⟩
      rw [AdsDb.receivableCents, AdsDb.receivableCount, htotal _ (·.amount) fun c k => if_pos rfl,
        htotal _ (fun _ => 1) fun c k => if_pos rfl, hnone, hnone, zero_add, zero_add]
      simpa using hdraft.close
  · rcases Table.mem_foldl_create (fun _ _ => rfl) hr with hr | ⟨charge, -, k, rfl⟩
    · obtain ⟨i, hi, hid⟩ := h.sources r hr id hid
      exact ⟨i, (hmem i).mpr (.inl hi), hid⟩
    · exact ⟨_, (hmem _).mpr (.inr rfl), Option.some.inj hid⟩

end Writes

end AtlasErp
