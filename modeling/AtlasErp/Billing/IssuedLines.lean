import AtlasErp.Billing.CollectedInFull

/-! # The lines of an issue

- `issueLocked_lines`: one line for each charge, with its source and for what was open of it;
- `issueLocked_frame`: an issue touches neither payments nor the charges it does not bill;
- `issueLocked_isOk`: whether the writes succeed depends on the charges and the surroundings only. -/

namespace AtlasErp

open Lib

section Issue

variable {db db' : BillingDb} {input : IssueInvoiceDto} {context : IssueContext} {invoice : MerchantInvoice}
  {receivables : List MerchantReceivable}

/-- The line of a charge is for what was open of it. -/
theorem lineOf_net {totals : InvoiceTotals} (hnodup : (receivables.map (·.id)).Nodup)
    (htotals : computeInvoiceTotals (receivables.map (·.charge)) context.taxRateUnits = .ok totals)
    {r : MerchantReceivable} (hr : r ∈ receivables) : (totals.lineOf r).net = r.amountOpen := by
  obtain ⟨hhas, honly⟩ := computeInvoiceTotals_lines htotals
  unfold InvoiceTotals.lineOf
  cases hfind : totals.lines.find? (·.id = r.id) with
  | none =>
    obtain ⟨line, hline, hid⟩ := hhas r.charge (List.mem_map_of_mem hr)
    exact absurd (decide_eq_true hid) (List.find?_eq_none.mp hfind line hline)
  | some line =>
    obtain ⟨charge, hcharge, hid, hnet⟩ := honly line (List.mem_of_find?_eq_some hfind)
    obtain ⟨x, hx, rfl⟩ := List.mem_map.mp hcharge
    have hfound := List.find?_some hfind
    have hsame : x.id = r.id := hid.symm.trans (of_decide_eq_true hfound)
    obtain rfl : x = r := List.inj_on_of_nodup_map hnodup hx hr hsame
    exact hnet

theorem foldl_billReceivable_lines (totals : InvoiceTotals) (k : Nat) (db : BillingDb) :
    let billed := receivables.foldl (billReceivable totals k) db
    billed.invoiceLines = receivables.foldl (fun t r => t.create (newInvoiceLine db k r (totals.lineOf r)))
        db.invoiceLines ∧ billed.payments = db.payments := by
  induction receivables generalizing db with
  | nil => exact ⟨rfl, rfl⟩
  | cons r receivables ih => exact ih (billReceivable totals k db r)

/-- A line as an issue writes it for a charge. -/
structure LineOf (invoiceId : Nat) (r : MerchantReceivable) (line : MerchantInvoiceLine) : Prop where
  invoice : line.invoiceId = invoiceId
  sourceType : line.sourceType = r.sourceType
  sourceId : line.sourceId = r.sourceId
  unitAmount : line.unitAmount = r.amountOpen

/-- **One line for each charge.** -/
theorem issueLocked_lines (h : Issuable db receivables)
    (hok : issueLocked db input context receivables = .ok (invoice, db')) :
    ∃ mk : MerchantReceivable → Nat → MerchantInvoiceLine, (∀ r id, (mk r id).id = id) ∧
      (∀ r ∈ receivables, ∀ id, LineOf invoice.id r (mk r id)) ∧
      (∀ r id, (mk r id).invoiceId = invoice.id ∧ (mk r id).sourceType = r.sourceType ∧
        (mk r id).sourceId = r.sourceId) ∧
      db'.invoiceLines = receivables.foldl (fun t r => t.create (mk r)) db.invoiceLines := by
  obtain ⟨totals, htotals, rfl, rfl⟩ := issueLocked_cases hok
  refine ⟨fun r => newInvoiceLine db db.invoices.nextKey r (totals.lineOf r), fun _ _ => rfl, fun r hr id => ?_,
    fun _ _ => ⟨rfl, rfl, rfl⟩, (foldl_billReceivable_lines totals db.invoices.nextKey _).1⟩
  exact ⟨rfl, rfl, rfl, lineOf_net h.nodup htotals hr⟩

/-- What an issue leaves alone. -/
theorem issueLocked_frame (h : Issuable db receivables)
    (hok : issueLocked db input context receivables = .ok (invoice, db')) :
    db'.payments = db.payments ∧ ∀ p : MerchantReceivable → Bool,
      (∀ r ∈ receivables, p r = false ∧ p (r.tie invoice.id) = false) →
        db'.receivables.rowsWhere p = db.receivables.rowsWhere p := by
  obtain ⟨totals, -, rfl, rfl⟩ := issueLocked_cases hok
  refine ⟨(foldl_billReceivable_lines totals db.invoices.nextKey _).2, fun p hp => ?_⟩
  rw [(foldl_billReceivable totals db.invoices.nextKey receivables _).1]
  exact Table.rowsWhere_foldl_put_of_not (f := MerchantReceivable.tie _) (fun _ => rfl) h.nodup h.mem hp

/-- When the writes of an issue succeed. -/
theorem issueLocked_isOk : (∃ result, issueLocked db input context receivables = .ok result) ↔
    (∃ totals, invoiceTotals context receivables = .ok totals) ∧ context.fiscal = .ok () := by
  constructor
  · rintro ⟨result, hok⟩
    unfold issueLocked at hok
    obtain ⟨totals, htotals, hok⟩ := bind_eq_ok.mp hok
    obtain ⟨⟨⟩, hfiscal, -⟩ := bind_eq_ok.mp hok
    exact ⟨⟨totals, htotals⟩, hfiscal⟩
  · rintro ⟨⟨totals, htotals⟩, hfiscal⟩
    unfold issueLocked
    rw [htotals, hfiscal]
    exact ⟨_, rfl⟩

/-- Whether an issue succeeds depends on the charges it locks only. -/
theorem issueInvoice_isOk_congr (h : issueRows db input = issueRows db' input) :
    (∃ result, issueInvoice db input context = .ok result) ↔ ∃ result, issueInvoice db' input context = .ok result := by
  have hsplit : ∀ db : BillingDb, (∃ result, issueInvoice db input context = .ok result) ↔
      checkIssue input (issueRows db input) = .ok () ∧
        ∃ result, issueLocked db input context (issueRows db input) = .ok result := by
    intro db
    rw [issueInvoice_eq]
    constructor
    · rintro ⟨result, hok⟩
      obtain ⟨⟨⟩, hcheck, hlocked⟩ := bind_eq_ok.mp hok
      exact ⟨hcheck, result, hlocked⟩
    · rintro ⟨hcheck, result, hlocked⟩
      exact ⟨result, bind_eq_ok.mpr ⟨(), hcheck, hlocked⟩⟩
  rw [hsplit db, hsplit db', h, issueLocked_isOk, issueLocked_isOk]

end Issue

end AtlasErp
