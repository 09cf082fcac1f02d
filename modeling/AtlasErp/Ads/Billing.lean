import AtlasErp.Ads.Model
import AtlasErp.Common.DocumentNumbering
import AtlasErp.Lib.Grouping

/-! # Advertising: the invoices of a period

`closePeriod` groups the spend ledger of a period by advertiser, campaign, currency and form of charge,
writes an invoice for each advertiser and currency, and carries what was consumed of each product to the
account of the merchant.

- `getLedgerGroups`, `groupLedgerForInvoices`: the grouping query, and the invoices it asks for;
- `consumedByProduct`, `invoiceOf`: the receivables and the row of an invoice;
- `subtotal_invoiceGroup`: the subtotal is the sum of the entries that the query read. -/

namespace AtlasErp

open Lib

/-- A body that passed `periodCloseSchema`. -/
structure PeriodCloseDto where
  periodStart : Day
  periodEnd : Day
  advertiserId : Option Nat
  ordered : periodStart ≤ periodEnd
  deriving DecidableEq

/-- Days from the end of the period to the due date of a charge. -/
def ADS_RECEIVABLE_DUE_DAYS : Int := 15

/-- `Math.round`. -/
def mathRound (x : JsNumber) : Int := ⌊x + 1 / 2⌋

/-! ## The grouping query -/

/-- A group of the ledger. -/
structure LedgerGroupRow where
  advertiserId : Nat
  campaignId : Option Nat
  currency : String
  chargeBasis : String
  amountMicros : Int
  billableEvents : Nat
  deriving DecidableEq

/-- `right(reason, 4)`. -/
def lastFour (reason : String) : List Char := (reason.toList.reverse.take 4).reverse

/-- The form of charge, from the reason of an entry. -/
def chargeBasis (reason : Option String) : String :=
  match reason.map lastFour with
  | some ['_', 'C', 'P', 'M'] => "CPM"
  | some ['_', 'C', 'P', 'C'] => "CPC"
  | some ['_', 'C', 'P', 'A'] => "CPA"
  | _ => "ADJUSTMENT"

/-- From the first to the last millisecond of a period, in UTC. -/
def inPeriod (periodStart periodEnd : Day) (occurredAt : Instant) : Bool :=
  periodStart * 86400000 ≤ occurredAt ∧ occurredAt ≤ periodEnd * 86400000 + 86399999

/-- A moment in two periods: one begins before the other ends. -/
theorem start_le_end {s e s' e' t : Int} (h : inPeriod s e t = true) (h' : inPeriod s' e' t = true) : s ≤ e' := by
  simp only [inPeriod, decide_eq_true_eq] at h h'
  have hstart : s * 86400000 ≤ t := h.1
  have hend : t ≤ e' * 86400000 + 86399999 := h'.2
  omega

/-- The `WHERE` of the grouping query. -/
def isBilled (periodStart periodEnd : Day) (advertiserId : Option Nat) (l : SpendLedgerEntry) : Bool :=
  l.entryType ≠ .tax && inPeriod periodStart periodEnd l.occurredAt && advertiserId.all (· = l.advertiserId)

/-- What the query groups by. -/
abbrev LedgerGroupKey := Nat × Option Nat × String × String

def SpendLedgerEntry.groupKey (l : SpendLedgerEntry) : LedgerGroupKey :=
  (l.advertiserId, l.campaignId, l.currency, chargeBasis l.reason)

/-- The group of a key. -/
def ledgerGroup (entries : List SpendLedgerEntry) (key : LedgerGroupKey) : LedgerGroupRow :=
  let members := entries.filter (·.groupKey = key)
  ⟨key.1, key.2.1, key.2.2.1, key.2.2.2, (members.map (·.amountMicros)).sum, members.length⟩

/-- `ORDER BY advertiser_id, currency`. -/
def LedgerGroupRow.before (g h : LedgerGroupRow) : Bool :=
  g.advertiserId < h.advertiserId || (g.advertiserId = h.advertiserId && g.currency ≤ h.currency)

/-- The groups whose sum is not zero. -/
def ledgerGroups (entries : List SpendLedgerEntry) : List LedgerGroupRow :=
  (((entries.map (·.groupKey)).dedup.map (ledgerGroup entries)).filter (·.amountMicros ≠ 0)).mergeSort
    LedgerGroupRow.before

def AdsDb.billedEntries (db : AdsDb) (input : PeriodCloseDto) : List SpendLedgerEntry :=
  db.ledger.rowsWhere (isBilled input.periodStart input.periodEnd input.advertiserId)

def getLedgerGroups (db : AdsDb) (input : PeriodCloseDto) : List LedgerGroupRow :=
  ledgerGroups (db.billedEntries input)

/-! ## Invoices -/

/-- The groups of an advertiser in a currency: an invoice. -/
structure LedgerInvoiceGroup where
  advertiserId : Nat
  currency : String
  lines : List LedgerGroupRow
  /-- History: the entries of the advertiser in the currency that the query read. -/
  entries : List SpendLedgerEntry
  deriving DecidableEq

def groupLedgerForInvoices (entries : List SpendLedgerEntry) (groups : List LedgerGroupRow) :
    List LedgerInvoiceGroup :=
  (groups.map fun g => (g.advertiserId, g.currency)).dedup.map fun key =>
    { advertiserId := key.1
      currency := key.2
      lines := groups.filter fun g => g.advertiserId = key.1 ∧ g.currency = key.2
      entries := entries.filter fun l => l.advertiserId = key.1 ∧ l.currency = key.2 }

def LedgerInvoiceGroup.subtotalMicros (group : LedgerInvoiceGroup) : Int :=
  (group.lines.map (·.amountMicros)).sum

/-- Days overlap and the invoice is not void: the `WHERE` of `assertPeriodIsNotClosed`. -/
def AdsInvoice.overlaps (periodStart periodEnd : Day) (i : AdsInvoice) : Bool :=
  i.periodStart ≤ periodEnd ∧ periodStart ≤ i.periodEnd ∧ i.status ≠ .void

def assertPeriodIsNotClosed (db : AdsDb) (advertiserIds : List Nat) (periodStart periodEnd : Day) :
    Except HttpError Unit :=
  if (db.invoices.findBy fun i => i.advertiserId ∈ advertiserIds && i.overlaps periodStart periodEnd).isSome then
    .error (conflict "BILLING_PERIOD_ALREADY_CLOSED"
      "Ya existe una factura no anulada para al menos un anunciante dentro del periodo solicitado.")
  else .ok ()

/-- The active products, by form of charge: the last row of a form wins. -/
def productFor (products : List AdsBillingProduct) (chargeBasis : String) : Option AdsBillingProduct :=
  (products.filter (·.isActive)).reverse.find? (·.chargeBasis = chargeBasis)

/-- The profile with the default first, and then the newest. -/
def findDefaultBillingProfile (db : AdsDb) (advertiserId : Nat) : Option BillingProfile :=
  ((db.profiles.filter fun p => p.advertiserId = advertiserId ∧ p.isActive).mergeSort fun p q =>
    (p.isDefault && !q.isDefault) || (p.isDefault = q.isDefault && q.createdAt ≤ p.createdAt)).head?

def findMerchantAccountId (db : AdsDb) (advertiserId : Nat) : Option Nat :=
  (db.advertisers.find? advertiserId).bind (·.merchantAccountId)

/-- `products.get(line.chargeBasis) ?? null`, for a line that is carried to the merchant. -/
def consumedProduct (products : List AdsBillingProduct) (line : LedgerGroupRow) : Option AdsBillingProduct :=
  if 0 < line.amountMicros then productFor products line.chargeBasis else none

/-- Add to the amount of a product, at its place or at the end. -/
def addConsumed (consumed : List (AdsBillingProduct × Int)) (product : AdsBillingProduct) (amountMicros : Int) :
    List (AdsBillingProduct × Int) :=
  if consumed.any (·.1.id = product.id) then
    consumed.map fun c => if c.1.id = product.id then (c.1, c.2 + amountMicros) else c
  else consumed ++ [(product, amountMicros)]

/-- What was consumed of each product: the lines with a product and a positive amount. -/
def consumedByProduct (products : List AdsBillingProduct) (lines : List LedgerGroupRow) :
    List (AdsBillingProduct × Int) :=
  lines.foldl (fun consumed line =>
    match consumedProduct products line with
    | some product => addConsumed consumed product line.amountMicros
    | none => consumed) []

/-- `ROUND(micros::numeric / 1000000, 2)`, in cents. -/
def microsToCents (amountMicros : Int) : Int := numericColumn 2 ((amountMicros : JsNumber) / 1000000)

example : microsToCents 1235000 = 124 ∧ microsToCents 1234999 = 123 := by decide +kernel

/-- A charge that an invoice carries to the account of the merchant. -/
structure MerchantCharge where
  accountId : Nat
  sourceType : String
  productId : Nat
  amount : Int
  deriving DecidableEq

def merchantCharges (merchantAccountId : Option Nat) (consumed : List (AdsBillingProduct × Int)) :
    List MerchantCharge :=
  match merchantAccountId with
  | some accountId => consumed.map fun c => ⟨accountId, c.1.sourceType, c.1.id, microsToCents c.2⟩
  | none => []

section Invoice

variable (config : AdsConfig) (input : PeriodCloseDto) (products : List AdsBillingProduct)

/-- What the series of advertising invoices is asked for. -/
def adsNumberRequest : DocumentNumberRequest where
  seriesPrefix := "FAC-AD".toList
  table := "ad_invoices".toList
  column := "invoice_number".toList
  date := .text (dateText input.periodEnd).toList
  scope := none
  padding := none

/-- The numbers in the column. -/
def AdsDb.invoiceNumbers (db : AdsDb) : List IssuedNumber :=
  db.invoices.rows.map fun i => ⟨"ad_invoices".toList, "invoice_number".toList, none, i.invoiceNumber⟩

def invoiceLine (line : LedgerGroupRow) : AdsInvoiceLine where
  campaignId := line.campaignId
  description :=
    match productFor products line.chargeBasis with
    | some product =>
      product.name ++ " (" ++ dateText input.periodStart ++ " a " ++ dateText input.periodEnd ++ ")"
    | none => "Consumo publicitario " ++ dateText input.periodStart ++ " a " ++ dateText input.periodEnd
  pricingModel := line.chargeBasis
  quantity := line.billableEvents
  unitPriceMicros := mathRound ((line.amountMicros : JsNumber) / (max line.billableEvents 1 : Nat))
  amountMicros := line.amountMicros

/-- The row of an invoice. -/
def invoiceOf (group : LedgerInvoiceGroup) (profile : BillingProfile) (invoiceNumber : List Char) (id : Nat) :
    AdsInvoice where
  id
  advertiserId := group.advertiserId
  invoiceNumber
  billingProfileId := profile.id
  periodStart := input.periodStart
  periodEnd := input.periodEnd
  currency := group.currency
  subtotalMicros := group.subtotalMicros
  taxMicros := mathRound (group.subtotalMicros * config.ADS_BILLING_TAX_RATE)
  totalMicros := group.subtotalMicros + mathRound (group.subtotalMicros * config.ADS_BILLING_TAX_RATE)
  status := .draft
  lines := group.lines.map (invoiceLine input products)
  entries := group.entries

end Invoice

/-- `createMerchantReceivableFromAdsInvoice`. -/
def receivableOf (invoice : AdsInvoice) (charge : MerchantCharge) (id : Nat) : MerchantReceivable where
  id
  accountId := charge.accountId
  invoiceId := none
  sourceType := charge.sourceType
  sourceId := some invoice.id
  productId := some charge.productId
  amountOriginal := charge.amount
  amountOpen := charge.amount
  currency := invoice.currency
  dueDate := invoice.periodEnd + ADS_RECEIVABLE_DUE_DAYS
  status := .pending

/-- The writes of an invoice: its row, and the charges to the merchant. -/
def AdsDb.recordInvoice (db : AdsDb) (invoice : Nat → AdsInvoice) (charges : List MerchantCharge) : AdsDb :=
  { db with
    invoices := db.invoices.create invoice
    receivables := charges.foldl (fun receivables charge =>
      receivables.create (receivableOf (invoice db.invoices.nextKey) charge)) db.receivables }

/-! ## An invoice is the net of its entries -/

section Net

variable {entries : List SpendLedgerEntry}

/-- The groups of an advertiser in a currency add up to its entries in the currency. -/
theorem sum_ledgerGroups (advertiserId : Nat) (currency : String) :
    (((ledgerGroups entries).filter fun g => g.advertiserId = advertiserId ∧ g.currency = currency).map
        (·.amountMicros)).sum =
      ((entries.filter fun l => l.advertiserId = advertiserId ∧ l.currency = currency).map (·.amountMicros)).sum := by
  have hperm := (List.mergeSort_perm (((entries.map (·.groupKey)).dedup.map (ledgerGroup entries)).filter
    (·.amountMicros ≠ 0)) LedgerGroupRow.before)
  rw [ledgerGroups, ((hperm.filter _).map _).sum_eq, List.filter_comm, sum_filter_ne_zero, List.filter_map, List.map_map]
  -- the keys of the advertiser and the currency, and their entries
  have hkeys := (List.nodup_dedup (entries.map (·.groupKey))).filter
    ((fun g : LedgerGroupRow => decide (g.advertiserId = advertiserId ∧ g.currency = currency)) ∘
      ledgerGroup entries)
  rw [← sum_groups SpendLedgerEntry.groupKey (·.amountMicros) hkeys fun l hl => ?_]
  · refine congrArg List.sum (List.map_congr_left fun key hkey => ?_)
    have hof := of_decide_eq_true (List.mem_filter.mp hkey).2
    rw [List.filter_filter]
    refine congrArg (fun ls : List SpendLedgerEntry => (ls.map (·.amountMicros)).sum)
      (List.filter_congr fun l _ => ?_)
    by_cases hl : l.groupKey = key
    · subst hl
      simpa [ledgerGroup, SpendLedgerEntry.groupKey] using hof
    · simp [hl]
  · obtain ⟨hmem, hof⟩ := List.mem_filter.mp hl
    exact List.mem_filter.mpr ⟨List.mem_dedup.mpr (List.mem_map_of_mem hmem), hof⟩

/-- **The subtotal of an invoice is the net of the entries that it bills.** -/
theorem subtotal_invoiceGroup {group : LedgerInvoiceGroup}
    (h : group ∈ groupLedgerForInvoices entries (ledgerGroups entries)) :
    group.subtotalMicros = (group.entries.map (·.amountMicros)).sum := by
  obtain ⟨key, -, rfl⟩ := List.mem_map.mp h
  exact sum_ledgerGroups key.1 key.2

/-- An advertiser has one invoice in a currency. -/
theorem nodup_invoiceGroups (groups : List LedgerGroupRow) :
    ((groupLedgerForInvoices entries groups).map fun g => (g.advertiserId, g.currency)).Nodup := by
  rw [groupLedgerForInvoices, List.map_map]
  exact (List.map_id _).symm ▸ List.nodup_dedup _

end Net

/-! ## What is carried to the merchant -/

section Carried

variable {products : List AdsBillingProduct}

theorem addConsumed_ids {consumed : List (AdsBillingProduct × Int)} (h : (consumed.map (·.1.id)).Nodup)
    (product : AdsBillingProduct) (amountMicros : Int) :
    ((addConsumed consumed product amountMicros).map (·.1.id)).Nodup := by
  unfold addConsumed
  split
  · have hsame : (consumed.map fun c => if c.1.id = product.id then (c.1, c.2 + amountMicros) else c).map (·.1.id) =
        consumed.map (·.1.id) := by
      rw [List.map_map]
      refine List.map_congr_left fun c _ => ?_
      by_cases hid : c.1.id = product.id <;> simp [hid]
    rw [hsame]
    exact h
  · rename_i hnone
    rw [List.map_append, List.nodup_append']
    refine ⟨h, List.nodup_singleton _, ?_⟩
    intro id hid hid'
    obtain ⟨c, hc, rfl⟩ := List.mem_map.mp hid
    exact hnone (List.any_eq_true.mpr ⟨c, hc, decide_eq_true (List.mem_singleton.mp hid')⟩)

theorem sum_addConsumed {consumed : List (AdsBillingProduct × Int)} (h : (consumed.map (·.1.id)).Nodup)
    (product : AdsBillingProduct) (amountMicros : Int) :
    ((addConsumed consumed product amountMicros).map (·.2)).sum = (consumed.map (·.2)).sum + amountMicros := by
  unfold addConsumed
  split
  · rename_i hany
    obtain ⟨c, hc, hid⟩ := List.any_eq_true.mp hany
    exact sum_map_at_key (f := fun c => (c.1, c.2 + amountMicros)) h
      (List.mem_map.mpr ⟨c, hc, of_decide_eq_true hid⟩) fun _ _ _ => rfl
  · simp

/-- The amounts of the lines that are not carried to the merchant. -/
def uncarriedMicros (products : List AdsBillingProduct) (lines : List LedgerGroupRow) : Int :=
  ((lines.filter fun line => (consumedProduct products line).isNone).map (·.amountMicros)).sum

/-- **What is consumed** is what the lines charge, but for those without a product or an amount. -/
theorem sum_consumedByProduct (lines : List LedgerGroupRow) :
    ((consumedByProduct products lines).map (·.2)).sum + uncarriedMicros products lines =
      (lines.map (·.amountMicros)).sum := by
  have hfold : ∀ consumed : List (AdsBillingProduct × Int), (consumed.map (·.1.id)).Nodup →
      ((lines.foldl (fun consumed line =>
        match consumedProduct products line with
        | some product => addConsumed consumed product line.amountMicros
        | none => consumed) consumed).map (·.2)).sum + uncarriedMicros products lines =
        (consumed.map (·.2)).sum + (lines.map (·.amountMicros)).sum := by
    induction lines with
    | nil => intro consumed _; rfl
    | cons line lines ih =>
      intro consumed hnodup
      simp only [uncarriedMicros] at ih ⊢
      cases hproduct : consumedProduct products line with
      | none =>
        have hrest := ih consumed hnodup
        simp only [List.foldl_cons, hproduct, List.filter_cons, Option.isNone_none, if_true, List.map_cons,
          List.sum_cons]
        omega
      | some product =>
        have hrest := ih _ (addConsumed_ids hnodup product line.amountMicros)
        rw [sum_addConsumed hnodup] at hrest
        simp only [List.foldl_cons, hproduct, List.filter_cons, Option.isNone_some, Bool.false_eq_true, if_false,
          List.map_cons, List.sum_cons]
        omega
  have hall := hfold [] List.nodup_nil
  rw [List.map_nil, List.sum_nil, zero_add] at hall
  exact hall

/-- A charge is off by half a cent at most. -/
theorem microsToCents_close (amountMicros : Int) :
    |microsToCents amountMicros * 10000 - amountMicros| ≤ 5000 := by
  have hquotient : (amountMicros : ℚ) / 1000000 * 10 ^ 2 + 1 / 2 = ((amountMicros + 5000 : Int) : ℚ) / (10000 : Nat) := by
    push_cast
    ring
  have hcents : microsToCents amountMicros = (amountMicros + 5000) / 10000 := by
    rw [microsToCents, numericColumn, hquotient, Rat.floor_intCast_div_natCast]
    rfl
  rw [hcents, abs_le]
  omega

/-- The charges of an invoice are off by half a cent each. -/
theorem sum_merchantCharges_close (accountId : Nat) (consumed : List (AdsBillingProduct × Int)) :
    |((merchantCharges (some accountId) consumed).map (·.amount)).sum * 10000 - (consumed.map (·.2)).sum| ≤
      5000 * (merchantCharges (some accountId) consumed).length := by
  induction consumed with
  | nil => simp [merchantCharges]
  | cons c consumed ih =>
    have hone := microsToCents_close c.2
    simp only [merchantCharges, List.map_cons, List.sum_cons, List.length_cons, Nat.cast_add, Nat.cast_one] at ih ⊢
    rw [abs_le] at hone ih ⊢
    omega

end Carried

end AtlasErp
