import AtlasErp.Billing.InvoiceTotals
import AtlasErp.Fiscal.MontosExactos

/-! # The texts of the totals of a merchant invoice

`computeInvoiceTotals` reads the columns of the charges and the configured rate as texts and returns texts.

- `computeInvoiceTotalsText`: from texts to texts;
- `InvoiceTotals.texts_read`: what is printed is read back;
- `computeInvoiceTotalsText_decomposes`: header and lines add up to the cent, and what rounding leaves over is in the
  first line. -/

namespace AtlasErp

open Lib

/-- A charge as it is stored. -/
structure ChargeText where
  id : Nat
  amountOpen : Text
  currency : String
  deriving DecidableEq

/-- The texts of one line. -/
structure InvoiceLineTexts where
  id : Nat
  net : Text
  tax : Text
  total : Text
  deriving DecidableEq

/-- The texts that are returned. -/
structure InvoiceTotalsTexts where
  currency : String
  subtotal : Text
  tax : Text
  total : Text
  lines : List InvoiceLineTexts
  deriving DecidableEq

inductive InvoiceTextError where
  | billing (error : BillingMathError)
  | amount (error : MontosError)
  deriving DecidableEq

/-! ## Reading -/

/-- `parseMoney` of a text. -/
def parseMoneyText (value : Text) (currency : String) (allowNegative allowZero : Bool) : Except MontosError Int := do
  let scale ← (currencyScale currency).mapError .money
  let minor ← parseDecimalExact value scale
  failIf (minor < 0 ∧ allowNegative = false) (.outOfRange value "negativo")
  failIf (minor = 0 ∧ allowZero = false) (.outOfRange value "cero")
  failIf (minor > NUMERIC_18_2_MAX_MINOR ∨ -minor > NUMERIC_18_2_MAX_MINOR) (.outOfRange value "excede la columna")
  return minor

/-- `parseRatePercent` of a text. -/
def parseRatePercentText (value : Text) : Except MontosError Int := do
  let units ← parseDecimalExact value RATE_SCALE
  failIf (units < 0 ∨ units > 100 * 10 ^ RATE_SCALE) (.outOfRange value "tasa fuera de 0–100 %")
  return units

/-- A charge whose amount was read. -/
def ChargeText.read (charge : ChargeText) (amountOpen : Int) : InvoiceableCharge :=
  ⟨charge.id, amountOpen, charge.currency⟩

/-- The texts of the totals. -/
def InvoiceTotals.texts (totals : InvoiceTotals) : InvoiceTotalsTexts :=
  ⟨totals.currency, minorText totals.subtotal 2, minorText totals.tax 2, minorText totals.total 2,
    totals.lines.map fun line => ⟨line.id, minorText line.net 2, minorText line.tax 2, minorText line.total 2⟩⟩

/-- Totals of a merchant invoice, from texts to texts. -/
def computeInvoiceTotalsText (charges : List ChargeText) (taxRatePercent : Text) :
    Except InvoiceTextError InvoiceTotalsTexts := do
  failIf (charges = []) (.billing (.moneyRuleViolation "NO_CHARGES" "La factura necesita al menos un cargo." "charges"))
  let currency ← (chargesCurrency (charges.map (·.read 0))).mapError .billing
  let nets ← (charges.mapM fun charge => parseMoneyText charge.amountOpen currency false false).mapError .amount
  let rate ← (parseRatePercentText taxRatePercent).mapError .amount
  -- the checks of what was read pass again
  let totals ← (computeInvoiceTotals (charges.zipWith ChargeText.read nets) rate).mapError .billing
  return totals.texts

/-! ## The decomposition -/

/-- The texts stand for the amounts. -/
structure InvoiceTotalsTexts.Read (texts : InvoiceTotalsTexts) (totals : InvoiceTotals) : Prop where
  currency : texts.currency = totals.currency
  subtotal : parseDecimalExact texts.subtotal 2 = .ok totals.subtotal
  tax : parseDecimalExact texts.tax 2 = .ok totals.tax
  total : parseDecimalExact texts.total 2 = .ok totals.total
  lines : List.Forall₂ (fun text line => text.id = line.id ∧ parseDecimalExact text.net 2 = .ok line.net ∧
    parseDecimalExact text.tax 2 = .ok line.tax ∧ parseDecimalExact text.total 2 = .ok line.total) texts.lines totals.lines

/-- **Header and lines of an invoice add up**, the tax at a rate in millionths of a percent. -/
structure InvoiceTotals.Decomposes (totals : InvoiceTotals) (rateUnits : Int) : Prop where
  subtotal : (totals.lines.map (·.net)).sum = totals.subtotal
  tax : totals.tax = roundHalfUp ((totals.subtotal : ℚ) * rateUnits / (100 * 10 ^ RATE_SCALE))
  taxes : (totals.lines.map (·.tax)).sum = totals.tax
  total : totals.total = totals.subtotal + totals.tax
  lineTotals : (totals.lines.map (·.total)).sum = totals.total
  line : ∀ line ∈ totals.lines, line.total = line.net + line.tax
  nonneg : ∀ line ∈ totals.lines, 0 ≤ line.tax
  /-- All lines have their share rounded down; the first has what is left as well. -/
  shares : ∃ residue : Int, 0 ≤ residue ∧ residue < totals.lines.length ∧ totals.lines.map (·.tax) =
    (totals.lines.map fun line => totals.tax * line.net / totals.subtotal).modifyHead (· + residue)

section Decomposition

variable {charges : List InvoiceableCharge} {taxRateUnits : Int} {totals : InvoiceTotals}

theorem InvoiceTotals.texts_read (totals : InvoiceTotals) : totals.texts.Read totals where
  currency := rfl
  subtotal := parseDecimalExact_minorText _ 2
  tax := parseDecimalExact_minorText _ 2
  total := parseDecimalExact_minorText _ 2
  lines := List.forall₂_map_left_iff.mpr (List.forall₂_same.mpr fun _ _ => ⟨rfl,
    parseDecimalExact_minorText _ 2, parseDecimalExact_minorText _ 2,
    parseDecimalExact_minorText _ 2⟩)

/-- The columns of the lines of charges and taxes. -/
theorem lineColumns_of_taxes {taxes : List Int} (hlength : taxes.length = charges.length)
    {lines : List InvoiceLineTotals} (hlines : lines = (charges.zip ((charges.map (·.amountOpen)).zip taxes)).map
      fun line => ⟨line.1.id, line.2.1, line.2.2, line.2.1 + line.2.2⟩) :
    lines.map (·.id) = charges.map (·.id) ∧ lines.map (·.net) = charges.map (·.amountOpen) ∧ lines.map (·.tax) = taxes ∧
      ∀ line ∈ lines, line.total = line.net + line.tax := by
  subst hlines
  induction charges generalizing taxes with
  | nil =>
    obtain rfl := List.length_eq_zero_iff.mp hlength
    exact ⟨rfl, rfl, rfl, nofun⟩
  | cons charge charges ih =>
    cases taxes with
    | nil => cases hlength
    | cons tax taxes =>
      obtain ⟨hids, hnets, htaxes, htotals⟩ := ih (Nat.succ.inj hlength)
      refine ⟨congrArg (charge.id :: ·) hids, congrArg (charge.amountOpen :: ·) hnets, congrArg (tax :: ·) htaxes, ?_⟩
      intro line hline
      rcases List.mem_cons.mp hline with rfl | hline
      · rfl
      · exact htotals line hline

/-- **Totals decompose exactly.** -/
theorem computeInvoiceTotals_decomposes (h : computeInvoiceTotals charges taxRateUnits = .ok totals) :
    totals.Decomposes taxRateUnits ∧ totals.lines.map (·.id) = charges.map (·.id) ∧
      totals.lines.map (·.net) = charges.map (·.amountOpen) := by
  obtain ⟨hids, htotals, -⟩ := computeInvoiceTotals_lineTotals h
  obtain ⟨-, -, -, hnonneg, -⟩ := computeInvoiceTotals_eq_ok h
  obtain ⟨hne, -, hamounts, hsum, hrate, htax, htotal, lineTaxes, htaxes, hlines⟩ := computeInvoiceTotals_inv h
  obtain ⟨hlength, hsumTaxes⟩ := allocateProportionally_eq_ok htaxes
  have hpos : ∀ weight ∈ charges.map (·.amountOpen), 0 < weight := fun weight hmem => by
    obtain ⟨charge, hcharge, rfl⟩ := List.mem_map.mp hmem
    exact (hamounts charge hcharge).1
  have hsubtotal : 0 ≤ totals.subtotal := hsum ▸ List.sum_nonneg fun weight hmem => (hpos weight hmem).le
  obtain ⟨residue, hshares, hlow, hhigh⟩ := allocateProportionally_shares hnonneg htaxes
  have hnonnegTaxes := allocateProportionally_nonneg hnonneg htaxes
  rw [List.length_map] at hlength
  obtain ⟨-, hnets, hcolumn, hline⟩ := lineColumns_of_taxes hlength hlines
  have hlineCount : totals.lines.length = charges.length := by
    rw [← List.length_map (fun line : InvoiceLineTotals => line.id), hids, List.length_map]
  refine ⟨{
    subtotal := by rw [hnets, hsum]
    tax := ?_
    taxes := by rw [hcolumn, hsumTaxes]
    total := htotal
    lineTotals := htotals
    line := hline
    nonneg := fun line hmem => hnonnegTaxes _ (hcolumn ▸ List.mem_map_of_mem hmem)
    shares := ⟨residue, hlow, by rwa [hlineCount, ← List.length_map (fun c : InvoiceableCharge => c.amountOpen)], ?_⟩ },
    hids, hnets⟩
  · rw [applyRatePercent, divideRounded_halfUp (mul_nonneg hsubtotal hrate) (by decide)] at htax
    rw [← Except.ok.inj htax]
    push_cast
    rfl
  · have hcomp : (totals.lines.map fun line => totals.tax * line.net / totals.subtotal) =
        (totals.lines.map (·.net)).map fun weight => totals.tax * weight / totals.subtotal := by
      rw [List.map_map]
      rfl
    rw [hcolumn, hshares, hcomp, hnets, hsum]

end Decomposition

/-! ## From texts -/

section Texts

variable {charges : List ChargeText} {nets : List Int} {currency : String} {scale : Nat}

theorem parseMoneyText_of_pos {value : Text} {minor : Int} (hscale : currencyScale currency = .ok 2)
    (hvalue : parseDecimalExact value 2 = .ok minor) (hpos : 0 < minor) (hmax : minor ≤ NUMERIC_18_2_MAX_MINOR)
    (allowNegative allowZero : Bool) : parseMoneyText value currency allowNegative allowZero = .ok minor := by
  have hnegative : ¬(minor < 0 ∧ allowNegative = false) := by omega
  have hzero : ¬(minor = 0 ∧ allowZero = false) := by omega
  have hrange : ¬(minor > NUMERIC_18_2_MAX_MINOR ∨ -minor > NUMERIC_18_2_MAX_MINOR) := by
    unfold NUMERIC_18_2_MAX_MINOR at hmax ⊢
    omega
  simp only [parseMoneyText, hscale, Except.mapError, ok_bind, hvalue, failIf_of_not hnegative, failIf_of_not hzero,
    failIf_of_not hrange]
  rfl

/-- Every supported currency has two decimals. -/
theorem currencyScale_eq_two (h : currencyScale currency = .ok scale) : scale = 2 := by
  have hlookup := orFail_eq_ok.mp h
  generalize currencyCode currency = code at hlookup
  simp only [CURRENCY_MINOR_SCALE, List.lookup_cons, List.lookup_nil] at hlookup
  split at hlookup
  · exact (Option.some.inj hlookup).symm
  · split at hlookup
    · exact (Option.some.inj hlookup).symm
    · cases hlookup

/-- The charges that were read, in order. -/
theorem zipWith_read {R : ChargeText → Int → Prop} (h : List.Forall₂ R charges nets) :
    (charges.zipWith ChargeText.read nets).map (·.id) = charges.map (·.id) ∧
      (charges.zipWith ChargeText.read nets).map (·.currency) = charges.map (·.currency) ∧
      (charges.zipWith ChargeText.read nets).map (·.amountOpen) = nets := by
  induction h with
  | nil => exact ⟨rfl, rfl, rfl⟩
  | cons _ _ ih =>
    obtain ⟨hids, hcurrencies, hamounts⟩ := ih
    exact ⟨congrArg (_ :: ·) hids, congrArg (_ :: ·) hcurrencies, congrArg (_ :: ·) hamounts⟩

/-- **Invoice totals decompose exactly**, from the texts of the charges and of the rate to the texts returned. -/
theorem computeInvoiceTotalsText_decomposes {taxRatePercent : Text} {rateUnits : Int} (hne : charges ≠ [])
    (hsupported : currencyScale currency = .ok scale)
    (hcurrency : ∀ charge ∈ charges, currencyCode charge.currency = currency)
    (hnets : List.Forall₂ (fun charge net => parseDecimalExact charge.amountOpen 2 = .ok net ∧ 0 < net ∧
      net ≤ NUMERIC_18_2_MAX_MINOR) charges nets)
    (hread : parseDecimalExact taxRatePercent RATE_SCALE = .ok rateUnits)
    (hrate : 0 ≤ rateUnits ∧ rateUnits ≤ 100 * 10 ^ RATE_SCALE) :
    ∃ texts totals, computeInvoiceTotalsText charges taxRatePercent = .ok texts ∧ texts.Read totals ∧
      totals.Decomposes rateUnits ∧ totals.lines.map (·.id) = charges.map (·.id) ∧ totals.lines.map (·.net) = nets := by
  obtain rfl := currencyScale_eq_two hsupported
  obtain ⟨hids, hcurrencies, hamounts⟩ := zipWith_read hnets
  have hcode : chargesCurrency (charges.map (·.read 0)) = .ok currency := by
    rw [chargesCurrency, assertSingleCurrency_of_forall (by simpa using hne) hsupported (by
      simpa [ChargeText.read] using hcurrency)]
  have hmoney : (charges.mapM fun charge => parseMoneyText charge.amountOpen currency false false) = .ok nets :=
    mapM_eq_ok.mpr (hnets.imp fun charge net h => parseMoneyText_of_pos hsupported h.1 h.2.1 h.2.2 false false)
  have hrange : ¬(rateUnits < 0 ∨ rateUnits > 100 * 10 ^ RATE_SCALE) := by omega
  have hparsed : parseRatePercentText taxRatePercent = .ok rateUnits := by
    rw [parseRatePercentText, hread, ok_bind, failIf_of_not hrange]
    rfl
  have hreadNe : charges.zipWith ChargeText.read nets ≠ [] := fun hnil => hne (by
    rw [hnil] at hids
    exact List.map_eq_nil_iff.mp hids.symm)
  have hreadCurrency : ∀ charge ∈ charges.zipWith ChargeText.read nets, currencyCode charge.currency = currency := by
    intro charge hcharge
    have hmem : charge.currency ∈ charges.map (·.currency) := hcurrencies ▸ List.mem_map_of_mem hcharge
    obtain ⟨stored, hstored, heq⟩ := List.mem_map.mp hmem
    exact heq ▸ hcurrency stored hstored
  have hreadPos : ∀ charge ∈ charges.zipWith ChargeText.read nets,
      0 < charge.amountOpen ∧ charge.amountOpen ≤ NUMERIC_18_2_MAX_MINOR := by
    intro charge hcharge
    have hmem : charge.amountOpen ∈ nets := hamounts ▸ List.mem_map_of_mem hcharge
    obtain ⟨i, hi, heq⟩ := List.getElem_of_mem hmem
    have hnet := hnets.get (hnets.length_eq ▸ hi) hi
    rw [List.get_eq_getElem, List.get_eq_getElem, heq] at hnet
    exact hnet.2
  obtain ⟨totals, htotals⟩ := exists_computeInvoiceTotals hreadNe hsupported hreadCurrency hreadPos hrate
  obtain ⟨hdecomposes, hlineIds, hlineNets⟩ := computeInvoiceTotals_decomposes htotals
  refine ⟨totals.texts, totals, ?_, totals.texts_read, hdecomposes, hlineIds.trans hids, hlineNets.trans hamounts⟩
  simp only [computeInvoiceTotalsText, failIf_of_not hne, hcode, hmoney, hparsed, htotals, Except.mapError, ok_bind]
  rfl

end Texts

/-- Two charges at 13 %, whose tax does not split evenly. -/
theorem computeInvoiceTotalsText_decomposes_dos : ∃ texts totals,
    computeInvoiceTotalsText [⟨1, "10.00".toList, "BOB"⟩, ⟨2, "0.07".toList, "bob"⟩] "13.000000".toList = .ok texts ∧
      texts.Read totals ∧ totals.Decomposes 13000000 ∧ totals.lines.map (·.id) = [1, 2] ∧
      totals.lines.map (·.net) = [1000, 7] :=
  computeInvoiceTotalsText_decomposes (List.cons_ne_nil _ _) (rfl : currencyScale "BOB" = .ok 2) (by decide)
    (.cons (by decide) (.cons (by decide) .nil)) (by decide) (by decide)

end AtlasErp
