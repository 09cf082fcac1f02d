import AtlasErp.Common.Basics
import AtlasErp.Money.DecimalAmount
import Mathlib.Algebra.Order.BigOperators.Group.List

/-! # Totals of a merchant invoice

All the charges of an invoice are in one currency.  The tax is computed on the subtotal and split among
the lines in proportion to their net amount.

- `computeInvoiceTotals_eq_ok`: what the totals of accepted charges are;
- `computeInvoiceTotals_lines`: each charge has its line, whose net amount is the charge's. -/

namespace AtlasErp

open Lib

/-- A violation of the money rules of billing, or an error of the arithmetic below it. -/
inductive BillingMathError where
  | moneyRuleViolation (code message path : String)
  | money (error : MoneyError)
  deriving DecidableEq

/-- The arithmetic below the rules of billing. -/
def ofMoney {α : Type} (x : Except MoneyError α) : Except BillingMathError α := x.mapError .money

/-- A charge to invoice. -/
structure InvoiceableCharge where
  id : Nat
  amountOpen : Int
  currency : String
  deriving DecidableEq

/-- The totals of one line. -/
structure InvoiceLineTotals where
  id : Nat
  net : Int
  tax : Int
  total : Int
  deriving DecidableEq

/-- The totals of an invoice. -/
structure InvoiceTotals where
  currency : String
  subtotal : Int
  tax : Int
  total : Int
  lines : List InvoiceLineTotals
  deriving DecidableEq

/-- The only currency of the charges. -/
def chargesCurrency (charges : List InvoiceableCharge) : Except BillingMathError String :=
  match assertSingleCurrency (charges.map (·.currency)) with
  | .ok currency => .ok currency
  | .error (.currencyMismatch _) => .error (.moneyRuleViolation "MIXED_CURRENCIES"
      "No se pueden facturar juntos cargos de monedas distintas." "receivableIds")
  | .error error => .error (.money error)

/-- Totals of a merchant invoice. -/
def computeInvoiceTotals (charges : List InvoiceableCharge) (taxRateUnits : Int) :
    Except BillingMathError InvoiceTotals := do
  failIf (charges = []) (.moneyRuleViolation "NO_CHARGES"
    "La factura necesita al menos un cargo." "charges")
  let currency ← chargesCurrency charges
  let nets ← ofMoney (charges.mapM fun charge => parseMoney charge.amountOpen currency false false)
  let subtotal := sumMinor nets
  let rate ← ofMoney (parseRatePercent taxRateUnits)
  let tax ← ofMoney (applyRatePercent subtotal rate)
  let lineTaxes ← ofMoney (allocateProportionally tax nets)
  return {
    currency
    subtotal
    tax
    total := subtotal + tax
    lines := (charges.zip (nets.zip lineTaxes)).map fun line =>
      ⟨line.1.id, line.2.1, line.2.2, line.2.1 + line.2.2⟩ }

/-- Do the allocations add up to the payment, to the cent? -/
def allocationsMatchPayment (amount : Int) (allocations : List Int) (currency : String) :
    Except MoneyError Bool := do
  let payment ← parseMoney amount currency false false
  let applied ← allocations.mapM fun amountApplied => parseMoney amountApplied currency false false
  return sumMinor applied = payment

section Lemmas

theorem ofMoney_eq_ok {α : Type} {x : Except MoneyError α} {a : α} : ofMoney x = .ok a ↔ x = .ok a :=
  mapError_eq_ok

/-- Reading a list of amounts gives the amounts, each of them checked. -/
theorem mapM_parseMoney_eq_ok {α : Type} {amountOf : α → Int} {currency : String} {xs : List α}
    {amounts : List Int} (h : xs.mapM (fun x => parseMoney (amountOf x) currency false false) = .ok amounts) :
    amounts = xs.map amountOf ∧
      ∀ x ∈ xs, 0 < amountOf x ∧ amountOf x ≤ NUMERIC_18_2_MAX_MINOR := by
  induction xs generalizing amounts with
  | nil => exact ⟨(pure_eq_ok.mp h).symm, nofun⟩
  | cons x xs ih =>
    rw [List.mapM_cons] at h
    obtain ⟨amount, hamount, h⟩ := bind_eq_ok.mp h
    obtain ⟨rest, hrest, h⟩ := bind_eq_ok.mp h
    obtain ⟨rfl, -, hnonneg, hnonzero, hmax⟩ := parseMoney_eq_ok hamount
    obtain ⟨rfl, hall⟩ := ih hrest
    refine ⟨(pure_eq_ok.mp h).symm, fun y hy => ?_⟩
    have hpos : 0 < amountOf x := lt_of_le_of_ne (hnonneg rfl) (Ne.symm (hnonzero rfl))
    rcases List.mem_cons.mp hy with rfl | hy
    · exact ⟨hpos, hmax⟩
    · exact hall y hy

theorem assertSingleCurrency_eq_ok {currencies : List String} {currency : String}
    (h : assertSingleCurrency currencies = .ok currency) :
    (∃ scale, currencyScale currency = .ok scale) ∧ ∀ c ∈ currencies, currencyCode c = currency := by
  unfold assertSingleCurrency at h
  split at h
  · rename_i distinct hdistinct
    obtain ⟨scale, hscale, h⟩ := bind_eq_ok.mp h
    obtain rfl := pure_eq_ok.mp h
    refine ⟨⟨scale, hscale⟩, fun c hc => ?_⟩
    have hmem : currencyCode c ∈ (currencies.map currencyCode).eraseDups :=
      List.mem_eraseDups.mpr (List.mem_map_of_mem hc)
    rw [hdistinct] at hmem
    exact List.mem_singleton.mp hmem
  · cases h

/-- **What accepted charges went through**: their checks, the tax and its split. -/
theorem computeInvoiceTotals_inv {charges : List InvoiceableCharge} {taxRateUnits : Int} {totals : InvoiceTotals}
    (h : computeInvoiceTotals charges taxRateUnits = .ok totals) :
    charges ≠ [] ∧ assertSingleCurrency (charges.map (·.currency)) = .ok totals.currency ∧
      (∀ charge ∈ charges, 0 < charge.amountOpen ∧ charge.amountOpen ≤ NUMERIC_18_2_MAX_MINOR) ∧
      totals.subtotal = (charges.map (·.amountOpen)).sum ∧ 0 ≤ taxRateUnits ∧
      applyRatePercent totals.subtotal taxRateUnits = .ok totals.tax ∧ totals.total = totals.subtotal + totals.tax ∧
      ∃ lineTaxes, allocateProportionally totals.tax (charges.map (·.amountOpen)) = .ok lineTaxes ∧
        totals.lines = (charges.zip ((charges.map (·.amountOpen)).zip lineTaxes)).map fun line =>
          ⟨line.1.id, line.2.1, line.2.2, line.2.1 + line.2.2⟩ := by
  unfold computeInvoiceTotals at h
  obtain ⟨hnonempty, h⟩ := failIf_bind_eq_ok.mp h
  obtain ⟨currency, hcurrency, h⟩ := bind_eq_ok.mp h
  obtain ⟨nets, hnets, h⟩ := bind_eq_ok.mp h
  obtain ⟨rate, hrate, h⟩ := bind_eq_ok.mp h
  obtain ⟨tax, htax, h⟩ := bind_eq_ok.mp h
  obtain ⟨lineTaxes, htaxes, h⟩ := bind_eq_ok.mp h
  obtain rfl := pure_eq_ok.mp h
  obtain ⟨rfl, hamounts⟩ := mapM_parseMoney_eq_ok (ofMoney_eq_ok.mp hnets)
  have hrate := ofMoney_eq_ok.mp hrate
  unfold parseRatePercent at hrate
  obtain ⟨hrange, hrate⟩ := failIf_bind_eq_ok.mp hrate
  obtain rfl := pure_eq_ok.mp hrate
  have hsingle : assertSingleCurrency (charges.map (·.currency)) = .ok currency := by
    unfold chargesCurrency at hcurrency
    split at hcurrency
    · rename_i hok
      rw [hok, Except.ok.inj hcurrency]
    · cases hcurrency
    · cases hcurrency
  exact ⟨hnonempty, hsingle, hamounts, sumMinor_eq _, not_lt.mp fun hlt => hrange (.inl hlt), ofMoney_eq_ok.mp htax, rfl,
    lineTaxes, ofMoney_eq_ok.mp htaxes, rfl⟩

/-- What the totals of accepted charges are. -/
theorem computeInvoiceTotals_eq_ok {charges : List InvoiceableCharge} {taxRateUnits : Int}
    {totals : InvoiceTotals} (h : computeInvoiceTotals charges taxRateUnits = .ok totals) :
    charges ≠ [] ∧ totals.subtotal = (charges.map (·.amountOpen)).sum ∧
      applyRatePercent totals.subtotal taxRateUnits = .ok totals.tax ∧ 0 ≤ totals.tax ∧
      totals.total = totals.subtotal + totals.tax ∧
      (∃ scale, currencyScale totals.currency = .ok scale) ∧
      ∀ charge ∈ charges, currencyCode charge.currency = totals.currency ∧ 0 < charge.amountOpen ∧
        charge.amountOpen ≤ NUMERIC_18_2_MAX_MINOR := by
  obtain ⟨hnonempty, hsingle, hamounts, hsum, hrate, htax, htotal, -⟩ := computeInvoiceTotals_inv h
  obtain ⟨hscale, hall⟩ := assertSingleCurrency_eq_ok hsingle
  have hsubtotal : 0 ≤ totals.subtotal := by
    rw [hsum]
    refine List.sum_nonneg fun amount hamount => ?_
    obtain ⟨charge, hcharge, rfl⟩ := List.mem_map.mp hamount
    exact le_of_lt (hamounts charge hcharge).1
  refine ⟨hnonempty, hsum, htax, applyRatePercent_nonneg hsubtotal hrate htax, htotal, hscale, fun charge hcharge => ?_⟩
  exact ⟨hall _ (List.mem_map_of_mem hcharge), hamounts charge hcharge⟩

/-- The lines are those of the charges: the net amount of a line is what was open of its charge. -/
theorem computeInvoiceTotals_lines {charges : List InvoiceableCharge} {taxRateUnits : Int} {totals : InvoiceTotals}
    (h : computeInvoiceTotals charges taxRateUnits = .ok totals) :
    (∀ charge ∈ charges, ∃ line ∈ totals.lines, line.id = charge.id) ∧
      ∀ line ∈ totals.lines, ∃ charge ∈ charges, line.id = charge.id ∧ line.net = charge.amountOpen := by
  obtain ⟨-, -, -, -, -, -, -, lineTaxes, htaxes, hlines⟩ := computeInvoiceTotals_inv h
  rw [hlines]
  have hlength := (allocateProportionally_eq_ok htaxes).1
  rw [List.length_map] at hlength
  have hget : ∀ i (hi : i < charges.length), (charges.zip ((charges.map (·.amountOpen)).zip lineTaxes))[i]? =
      some (charges[i], charges[i].amountOpen, lineTaxes[i]) := by
    intro i hi
    rw [List.getElem?_eq_some_iff]
    exact ⟨by simp [hlength, hi], by simp⟩
  refine ⟨fun charge hcharge => ?_, fun line hline => ?_⟩
  · obtain ⟨i, hi, rfl⟩ := List.mem_iff_getElem.mp hcharge
    exact ⟨_, List.mem_map_of_mem (List.mem_of_getElem? (hget i hi)), rfl⟩
  · obtain ⟨x, hx, rfl⟩ := List.mem_map.mp hline
    obtain ⟨i, hi, rfl⟩ := List.mem_iff_getElem.mp hx
    have hi' : i < charges.length := by
      rw [List.length_zip] at hi
      omega
    have hvalue := (List.getElem?_eq_some_iff.mp (hget i hi')).2
    exact ⟨charges[i], List.getElem_mem hi', by rw [hvalue], by rw [hvalue]⟩

theorem assertSingleCurrency_of_forall {currencies : List String} {currency : String} {scale : Nat}
    (hne : currencies ≠ []) (hscale : currencyScale currency = .ok scale)
    (h : ∀ c ∈ currencies, currencyCode c = currency) : assertSingleCurrency currencies = .ok currency := by
  have hcodes : currencies.map currencyCode = List.replicate currencies.length currency :=
    List.eq_replicate_iff.mpr ⟨List.length_map _, fun c hc => by
      obtain ⟨c', hc', rfl⟩ := List.mem_map.mp hc
      exact h c' hc'⟩
  obtain ⟨n, hn⟩ := Nat.exists_eq_succ_of_ne_zero (List.length_pos_iff.mpr hne).ne'
  have hone : (List.replicate (n + 1) currency).eraseDups = [currency] := by
    simp [List.replicate_succ, List.eraseDups_cons]
  simp only [assertSingleCurrency, hcodes, hn, Nat.succ_eq_add_one, hone, hscale, ok_bind]
  rfl

theorem mapM_parseMoney_of_pos {α : Type} {amountOf : α → Int} {currency : String} {scale : Nat} {xs : List α}
    (hscale : currencyScale currency = .ok scale)
    (h : ∀ x ∈ xs, 0 < amountOf x ∧ amountOf x ≤ NUMERIC_18_2_MAX_MINOR) :
    xs.mapM (fun x => parseMoney (amountOf x) currency false false) = .ok (xs.map amountOf) := by
  refine mapM_eq_ok.mpr (List.forall₂_map_right_iff.mpr (List.forall₂_same.mpr fun x hx => ?_))
  exact parseMoney_of_pos hscale (h x hx).1 (h x hx).2 false false

/-- **Charges of one currency** with positive amounts have totals, at every rate. -/
theorem exists_computeInvoiceTotals {charges : List InvoiceableCharge} {taxRateUnits : Int} {currency : String}
    {scale : Nat} (hne : charges ≠ []) (hscale : currencyScale currency = .ok scale)
    (hcurrency : ∀ charge ∈ charges, currencyCode charge.currency = currency)
    (hpos : ∀ charge ∈ charges, 0 < charge.amountOpen ∧ charge.amountOpen ≤ NUMERIC_18_2_MAX_MINOR)
    (hrate : 0 ≤ taxRateUnits ∧ taxRateUnits ≤ 100 * 10 ^ RATE_SCALE) :
    ∃ totals, computeInvoiceTotals charges taxRateUnits = .ok totals := by
  have hcode : chargesCurrency charges = .ok currency := by
    rw [chargesCurrency, assertSingleCurrency_of_forall (by simpa using hne) hscale (by simpa using hcurrency)]
  have hnets := mapM_parseMoney_of_pos hscale hpos
  have hrange : ¬(taxRateUnits < 0 ∨ taxRateUnits > 100 * 10 ^ RATE_SCALE) := by omega
  obtain ⟨tax, htax⟩ := exists_applyRatePercent (sumMinor (charges.map (·.amountOpen))) taxRateUnits
  have hweights : ∀ weight ∈ charges.map (·.amountOpen), 0 < weight := fun weight hmem => by
    obtain ⟨charge, hcharge, rfl⟩ := List.mem_map.mp hmem
    exact (hpos charge hcharge).1
  obtain ⟨lineTaxes, htaxes⟩ := exists_allocateProportionally tax (fun weight hmem => (hweights weight hmem).le)
    (List.sum_pos _ hweights (by simpa using hne))
  have hok : parseRatePercent taxRateUnits = .ok taxRateUnits := by
    rw [parseRatePercent, failIf_of_not hrange]
    rfl
  simp only [computeInvoiceTotals, failIf_of_not hne, hcode, hnets, hok, htax, htaxes, ofMoney, Except.mapError, ok_bind]
  exact ⟨_, rfl⟩

/-- The lines of the charges, each with its share of the tax. -/
theorem lineTotals_of_taxes {charges : List InvoiceableCharge} {taxes : List Int} (hlength : taxes.length = charges.length)
    {lines : List InvoiceLineTotals} (hlines : lines = (charges.zip ((charges.map (·.amountOpen)).zip taxes)).map
      fun line => ⟨line.1.id, line.2.1, line.2.2, line.2.1 + line.2.2⟩) :
    lines.map (·.id) = charges.map (·.id) ∧
      (lines.map (·.total)).sum = (charges.map (·.amountOpen)).sum + taxes.sum ∧
      ∀ line ∈ lines, ∃ charge ∈ charges, ∃ tax ∈ taxes, line.total = charge.amountOpen + tax := by
  subst hlines
  induction charges generalizing taxes with
  | nil => simp [List.length_eq_zero_iff.mp hlength]
  | cons charge charges ih =>
    cases taxes with
    | nil => cases hlength
    | cons tax taxes =>
      obtain ⟨hids, hsum, hlines⟩ := ih (Nat.succ.inj hlength)
      refine ⟨?_, ?_, fun line hline => ?_⟩
      · rw [List.map_cons, List.zip_cons_cons, List.zip_cons_cons, List.map_cons, List.map_cons, List.map_cons, hids]
      · rw [List.map_cons, List.zip_cons_cons, List.zip_cons_cons, List.map_cons, List.map_cons, List.sum_cons,
          List.sum_cons, List.sum_cons, hsum]
        ring
      · rcases List.mem_cons.mp hline with rfl | hline
        · exact ⟨charge, List.mem_cons_self, tax, List.mem_cons_self, rfl⟩
        · obtain ⟨c, hc, t, ht, htotal⟩ := hlines line hline
          exact ⟨c, List.mem_cons_of_mem _ hc, t, List.mem_cons_of_mem _ ht, htotal⟩

/-- **The lines add up to the invoice**, and each of them is positive. -/
theorem computeInvoiceTotals_lineTotals {charges : List InvoiceableCharge} {taxRateUnits : Int} {totals : InvoiceTotals}
    (h : computeInvoiceTotals charges taxRateUnits = .ok totals) :
    totals.lines.map (·.id) = charges.map (·.id) ∧ (totals.lines.map (·.total)).sum = totals.total ∧
      ∀ line ∈ totals.lines, 0 < line.total := by
  obtain ⟨-, hsubtotal, -, hnonneg, htotal, -, hcharges⟩ := computeInvoiceTotals_eq_ok h
  obtain ⟨-, -, -, -, -, -, -, lineTaxes, htaxes, hlines⟩ := computeInvoiceTotals_inv h
  rw [hlines]
  obtain ⟨hlength, hsum⟩ := allocateProportionally_eq_ok htaxes
  rw [List.length_map] at hlength
  obtain ⟨hids, htotals, hlines⟩ := lineTotals_of_taxes hlength rfl
  refine ⟨hids, ?_, fun line hline => ?_⟩
  · rw [htotals, hsum, htotal, hsubtotal]
  · obtain ⟨charge, hcharge, share, hshare, hline⟩ := hlines line hline
    have hpos := (hcharges charge hcharge).2.1
    have hshare := allocateProportionally_nonneg hnonneg htaxes share hshare
    omega

end Lemmas

end AtlasErp
