import AtlasErp.Fiscal.MontosExactos

/-! # The printed amounts satisfy the formulas of the SIN

What the tax authority recomputes are the texts.  A line is read as exact numbers; the texts that are printed stand for
these numbers and for what the formulas make of them.

- `LineaExacta`: a line in exact numbers, with its subtotal;
- `decimalValue_formatoCantidad`: a quantity without the zeros at its end is the same quantity;
- `calcularTotales_exacto`: the texts of an accepted invoice satisfy the formulas, and what satisfies them is
  accepted. -/

namespace AtlasErp

open Lib

/-- To cents. -/
def redondeo (x : ℚ) : ℚ := (roundHalfUp (x * 100) : ℚ) / 100

/-- A number with at most so many decimals. -/
def ConDecimales (escala : Nat) (x : ℚ) : Prop := ∃ n : Int, x = (n : ℚ) / 10 ^ escala

/-! ## The formulas -/

/-- The numbers of a line. -/
structure LineaExacta where
  cantidad : ℚ
  precioUnitario : ℚ
  montoDescuento : ℚ

def LineaExacta.subTotal (linea : LineaExacta) : ℚ :=
  redondeo (linea.cantidad * linea.precioUnitario) - linea.montoDescuento

/-- What the SIN accepts of a line. -/
structure LineaExacta.Valida (linea : LineaExacta) : Prop where
  cantidad : 0 < linea.cantidad
  precioUnitario : 0 < linea.precioUnitario
  montoDescuento : 0 ≤ linea.montoDescuento
  subTotal : 0 < linea.subTotal

/-- Five decimals in the quantity, two in the amounts. -/
structure LineaExacta.ConEscala (linea : LineaExacta) : Prop where
  cantidad : ConDecimales 5 linea.cantidad
  precioUnitario : ConDecimales 2 linea.precioUnitario
  montoDescuento : ConDecimales 2 linea.montoDescuento

/-- The numbers that the texts of the input stand for. -/
structure LineaExacta.Leida (entrada : LineaFiscalEntrada) (linea : LineaExacta) : Prop where
  cantidad : decimalValue entrada.cantidad = some linea.cantidad
  precioUnitario : decimalValue entrada.precioUnitario = some linea.precioUnitario
  montoDescuento : decimalValue (entrada.montoDescuento.getD ['0']) = some linea.montoDescuento

/-- The texts that are printed stand for the line and its subtotal. -/
structure LineaExacta.Impresa (impresa : LineaFiscal) (linea : LineaExacta) : Prop where
  cantidad : decimalValue impresa.cantidad = some linea.cantidad
  precioUnitario : decimalValue impresa.precioUnitario = some linea.precioUnitario
  montoDescuento : decimalValue impresa.montoDescuento = some linea.montoDescuento
  subTotal : decimalValue impresa.subTotal = some linea.subTotal

/-- The total of the invoice. -/
def totalExacto (lineas : List LineaExacta) (descuentoAdicional : ℚ) : ℚ :=
  (lineas.map (·.subTotal)).sum - descuentoAdicional

/-! ## Quantities -/

section Cantidad

theorem rdropWhile_append_cons {p : Char → Bool} {c : Char} (hc : p c = false) (l f : Text) :
    (l ++ c :: f).rdropWhile p = l ++ c :: f.rdropWhile p := by
  have hstop : (c :: l.reverse).dropWhile p = c :: l.reverse := List.dropWhile_cons_of_neg (by simp [hc])
  simp only [List.rdropWhile, List.reverse_append, List.reverse_cons, List.append_assoc, List.singleton_append,
    List.dropWhile_append, hstop]
  split
  next hempty => simp [List.isEmpty_iff.mp hempty]
  next => simp

/-- Digits and nothing else. -/
theorem amountParts_entero {entero : Text} (hentero : Decimal.AllDigits entero) (hne : entero ≠ []) :
    amountParts entero = some (false, entero, []) :=
  amountParts_eq_some_iff.mpr ⟨hentero, fun c hc => absurd hc List.not_mem_nil, .inl hne, [], by decide, by decide,
    .inr ⟨rfl, rfl⟩⟩

/-- The number of digits, a point and digits. -/
theorem decimalValue_punto {entero fraccion : Text} (hentero : Decimal.AllDigits entero)
    (hfraccion : Decimal.AllDigits fraccion) (hne : entero ≠ []) :
    decimalValue (entero ++ '.' :: fraccion) = some ((Decimal.value (entero ++ fraccion) : ℚ) / 10 ^ fraccion.length) := by
  have hparts := @amountParts_eq false _ _ hentero hfraccion hne
  have htrim : trim (entero ++ '.' :: fraccion) = entero ++ '.' :: fraccion := trim_of_forall fun c hc => by
    rcases List.mem_append.mp hc with hc | hc
    · exact isWhiteSpace_of_isDigit (hentero c hc)
    · rcases List.mem_cons.mp hc with rfl | hc
      · decide
      · exact isWhiteSpace_of_isDigit (hfraccion c hc)
  simp only [Bool.false_eq_true, if_false, List.nil_append] at hparts
  simp [decimalValue, htrim, hparts]

theorem decimalValue_entero {entero : Text} (hentero : Decimal.AllDigits entero) (hne : entero ≠ []) :
    decimalValue entero = some (Decimal.value entero : ℚ) := by
  have htrim : trim entero = entero := trim_of_forall fun c hc => isWhiteSpace_of_isDigit (hentero c hc)
  simp [decimalValue, htrim, amountParts_entero hentero hne]

/-- **The zeros at the end of a quantity** do not change it. -/
theorem decimalValue_formatoCantidad {minor : Int} (hminor : 0 ≤ minor) :
    decimalValue (formatoCantidad minor) = some ((minor : ℚ) / 10 ^ 5) := by
  obtain ⟨entero, fraccion, htext, hne, hlength, hentero, hfraccion, hvalue⟩ :=
    minorText_eq minor (show 0 < ESCALA_CANTIDAD by decide)
  have hcorto : (minorText minor ESCALA_CANTIDAD).rdropWhile (· = '0') = entero ++ '.' :: fraccion.rdropWhile (· = '0') := by
    rw [htext, if_neg (not_lt.mpr hminor), List.nil_append]
    exact rdropWhile_append_cons (by decide) entero fraccion
  have hsplit := List.rdropWhile_append_rtakeWhile (p := fun c : Char => decide (c = '0')) (l := fraccion)
  have hzeros : fraccion.rtakeWhile (· = '0') = List.replicate (fraccion.rtakeWhile (· = '0')).length '0' :=
    List.eq_replicate_iff.mpr ⟨rfl, fun c hc => by simpa using List.mem_rtakeWhile_imp hc⟩
  generalize fraccion.rdropWhile (· = '0') = corta at hcorto hsplit
  generalize (fraccion.rtakeWhile (· = '0')).length = ceros at hzeros
  rw [hzeros] at hsplit
  have hdigits : Decimal.AllDigits corta := fun c hc => hfraccion c (hsplit ▸ List.mem_append_left _ hc)
  have hunits : (minor : ℚ) / 10 ^ 5 = (Decimal.value (entero ++ corta) : ℚ) / 10 ^ corta.length := by
    have hscale : 5 = corta.length + ceros := by
      rw [← show ESCALA_CANTIDAD = 5 from rfl, ← hlength, ← hsplit, List.length_append, List.length_replicate]
    have hminorq : (minor : ℚ) = (Decimal.value (entero ++ corta) : ℚ) * 10 ^ ceros := by
      have hnat : minor.natAbs = Decimal.value (entero ++ corta) * 10 ^ ceros := by
        rw [← hvalue, ← hsplit, ← List.append_assoc, Decimal.value_append, Decimal.value_replicate,
          List.length_replicate, Nat.add_zero]
      have hint : minor = ((Decimal.value (entero ++ corta) * 10 ^ ceros : Nat) : Int) := by omega
      rw [hint]
      push_cast
      rfl
    rw [hminorq, hscale, pow_add]
    field_simp
  rw [hunits, formatoCantidad, hcorto]
  rcases List.eq_nil_or_concat corta with rfl | ⟨resto, c, rfl⟩
  · have hpunto : (entero ++ ['.']).getLast? = some '.' := List.getLast?_concat
    rw [if_pos hpunto, List.dropLast_concat, if_neg hne, decimalValue_entero hentero hne, List.append_nil, List.length_nil,
      pow_zero, div_one]
  · rw [List.concat_eq_append] at hdigits ⊢
    have hc : c.isDigit = true := hdigits c (List.mem_append_right _ List.mem_cons_self)
    have hpunto : ¬(entero ++ '.' :: (resto ++ [c])).getLast? = some '.' := by
      rw [← List.cons_append, ← List.append_assoc, List.getLast?_concat]
      rintro ⟨⟩
      cases hc
    rw [if_neg hpunto, if_neg (List.append_ne_nil_of_left_ne_nil hne _), decimalValue_punto hentero hdigits hne]

end Cantidad

/-! ## Lines -/

section Lineas

variable {indice : Nat} {entrada : LineaFiscalEntrada} {impresa : LineaFiscal} {linea : LineaExacta} {subTotal : Int}

/-- A quantity times a price, in cents. -/
theorem divideRounded_bruto {cantidad precio : Int} (hcantidad : 0 ≤ cantidad) (hprecio : 0 ≤ precio) :
    divideRounded (cantidad * precio) (10 ^ ESCALA_CANTIDAD) .halfUp =
      .ok (roundHalfUp ((cantidad : ℚ) / 10 ^ 5 * ((precio : ℚ) / 10 ^ 2) * 100)) := by
  rw [divideRounded_halfUp (mul_nonneg hcantidad hprecio) (by decide)]
  congr 2
  simp only [ESCALA_CANTIDAD]
  push_cast
  ring

/-- **An accepted line**: its texts stand for the numbers of the input and for their subtotal. -/
theorem lineaFiscal_exacta (h : lineaFiscal indice entrada = .ok (subTotal, impresa)) :
    ∃ linea : LineaExacta, linea.Leida entrada ∧ linea.Impresa impresa ∧ linea.Valida ∧
      linea.subTotal = (subTotal : ℚ) / 10 ^ 2 := by
  obtain ⟨cantidad, hcantidad, h⟩ := bind_eq_ok.mp h
  obtain ⟨precio, hprecio, h⟩ := bind_eq_ok.mp h
  obtain ⟨descuento, hdescuento, h⟩ := bind_eq_ok.mp h
  obtain ⟨bruto, hbruto, h⟩ := bind_eq_ok.mp h
  obtain ⟨hpositive, h⟩ := failIf_bind_eq_ok.mp h
  obtain ⟨rfl, rfl⟩ := Prod.mk.inj (pure_eq_ok.mp h)
  have hc : 0 < cantidad := by omega
  have hp : 0 < precio := by omega
  have hd : 0 ≤ descuento := by omega
  have hs : 0 < bruto - descuento := by omega
  rw [divideRounded_bruto hc.le hp.le] at hbruto
  obtain rfl := Except.ok.inj (mapError_eq_ok.mp hbruto)
  set linea : LineaExacta := ⟨(cantidad : ℚ) / 10 ^ 5, (precio : ℚ) / 10 ^ 2, (descuento : ℚ) / 10 ^ 2⟩
  have hsub : linea.subTotal =
      ((roundHalfUp ((cantidad : ℚ) / 10 ^ 5 * ((precio : ℚ) / 10 ^ 2) * 100) - descuento : Int) : ℚ) / 10 ^ 2 := by
    simp only [LineaExacta.subTotal, redondeo, linea]
    push_cast
    ring
  refine ⟨linea, ⟨parseDecimalExact_eq_ok_iff.mp hcantidad, parseDecimalExact_eq_ok_iff.mp hprecio,
    parseDecimalExact_eq_ok_iff.mp hdescuento⟩, ⟨decimalValue_formatoCantidad hc.le, decimalValue_minorText precio 2,
    decimalValue_minorText descuento 2, ?_⟩, ⟨by positivity, by positivity, by positivity, ?_⟩, hsub⟩
  · rw [hsub]
    exact decimalValue_minorText _ 2
  · rw [hsub]
    have : (0 : ℚ) < ((roundHalfUp ((cantidad : ℚ) / 10 ^ 5 * ((precio : ℚ) / 10 ^ 2) * 100) - descuento : Int) : ℚ) := by
      exact_mod_cast hs
    positivity

/-- **A line that satisfies the formulas** is accepted. -/
theorem lineaFiscal_of_valida (hleida : linea.Leida entrada) (hescala : linea.ConEscala) (hvalida : linea.Valida)
    (indice : Nat) : ∃ subTotal impresa, lineaFiscal indice entrada = .ok (subTotal, impresa) ∧
      linea.subTotal = (subTotal : ℚ) / 10 ^ 2 := by
  obtain ⟨cantidad, hcantidad⟩ := hescala.cantidad
  obtain ⟨precio, hprecio⟩ := hescala.precioUnitario
  obtain ⟨descuento, hdescuento⟩ := hescala.montoDescuento
  have hc : 0 < cantidad := by
    have := hvalida.cantidad
    rw [hcantidad, div_pos_iff_of_pos_right (by positivity)] at this
    exact_mod_cast this
  have hp : 0 < precio := by
    have := hvalida.precioUnitario
    rw [hprecio, div_pos_iff_of_pos_right (by positivity)] at this
    exact_mod_cast this
  have hd : 0 ≤ descuento := by
    by_contra hlt
    have hneg : (descuento : ℚ) / 10 ^ 2 < 0 := div_neg_of_neg_of_pos (by exact_mod_cast not_le.mp hlt) (by positivity)
    exact absurd hvalida.montoDescuento (hdescuento ▸ not_le.mpr hneg)
  have hsub : linea.subTotal =
      ((roundHalfUp ((cantidad : ℚ) / 10 ^ 5 * ((precio : ℚ) / 10 ^ 2) * 100) - descuento : Int) : ℚ) / 10 ^ 2 := by
    simp only [LineaExacta.subTotal, redondeo, hcantidad, hprecio, hdescuento]
    push_cast
    ring
  have hs : 0 < roundHalfUp ((cantidad : ℚ) / 10 ^ 5 * ((precio : ℚ) / 10 ^ 2) * 100) - descuento := by
    have := hvalida.subTotal
    rw [hsub, div_pos_iff_of_pos_right (by positivity)] at this
    exact_mod_cast this
  have hreads : cantidadMinor entrada.cantidad = .ok cantidad :=
    parseDecimalExact_eq_ok_iff.mpr (hcantidad ▸ hleida.cantidad)
  have hreadsPrecio : parseDecimalExact entrada.precioUnitario 2 = .ok precio :=
    parseDecimalExact_eq_ok_iff.mpr (hprecio ▸ hleida.precioUnitario)
  have hreadsDescuento : parseDecimalExact (entrada.montoDescuento.getD ['0']) 2 = .ok descuento :=
    parseDecimalExact_eq_ok_iff.mpr (hdescuento ▸ hleida.montoDescuento)
  have hbruto := divideRounded_bruto hc.le hp.le
  generalize roundHalfUp ((cantidad : ℚ) / 10 ^ 5 * ((precio : ℚ) / 10 ^ 2) * 100) = bruto at hbruto hsub hs
  refine ⟨bruto - descuento, ⟨formatoCantidad cantidad, minorText precio 2, minorText descuento 2,
    minorText (bruto - descuento) 2⟩, ?_, hsub⟩
  simp only [lineaFiscal, hreads, hreadsPrecio, hreadsDescuento, hbruto, ok_bind, Except.mapError]
  rw [failIf_of_not (by omega)]
  rfl

end Lineas

/-! ## The invoice -/

section Totales

variable {entradas : List LineaFiscalEntrada} {descuentoAdicional tipoCambio : Option Text}

/-- The texts of an invoice stand for its lines, its discount and its total. -/
structure FacturaExacta (entradas : List LineaFiscalEntrada) (descuentoAdicional : Option Text)
    (totales : TotalesFiscales) (lineas : List LineaExacta) (descuento : ℚ) : Prop where
  leidas : List.Forall₂ (fun entrada linea => LineaExacta.Leida entrada linea) entradas lineas
  impresas : List.Forall₂ (fun impresa linea => LineaExacta.Impresa impresa linea) totales.lineas lineas
  validas : ∀ linea ∈ lineas, linea.Valida
  descuentoLeido : decimalValue (descuentoAdicional.getD ['0']) = some descuento
  descuentoImpreso : decimalValue totales.descuentoAdicional = some descuento
  descuento_nonneg : 0 ≤ descuento
  total_pos : 0 < totalExacto lineas descuento
  montoTotal : decimalValue totales.montoTotal = some (totalExacto lineas descuento)
  montoTotalSujetoIva : decimalValue totales.montoTotalSujetoIva = some (totalExacto lineas descuento)
  montoTotalMoneda : decimalValue totales.montoTotalMoneda = some (totalExacto lineas descuento)

/-- Lines that were accepted one by one. -/
theorem lineas_exactas {indexadas : List (LineaFiscalEntrada × Nat)} {aceptadas : List (Int × LineaFiscal)}
    (h : List.Forall₂ (fun entrada aceptada => lineaFiscal entrada.2 entrada.1 = .ok aceptada) indexadas aceptadas) :
    ∃ lineas : List LineaExacta,
      List.Forall₂ (fun entrada linea => LineaExacta.Leida entrada linea) (indexadas.map (·.1)) lineas ∧
      List.Forall₂ (fun impresa linea => LineaExacta.Impresa impresa linea) (aceptadas.map (·.2)) lineas ∧
      (∀ linea ∈ lineas, linea.Valida) ∧
      (lineas.map (·.subTotal)).sum = (((aceptadas.map (·.1)).sum : Int) : ℚ) / 10 ^ 2 := by
  induction h with
  | nil => exact ⟨[], .nil, .nil, nofun, by simp⟩
  | cons hline _ ih =>
    obtain ⟨lineas, hleidas, himpresas, hvalidas, hsum⟩ := ih
    obtain ⟨linea, hleida, himpresa, hvalida, hsub⟩ := lineaFiscal_exacta hline
    refine ⟨linea :: lineas, .cons hleida hleidas, .cons himpresa himpresas, fun otra hotra => ?_, ?_⟩
    · rcases List.mem_cons.mp hotra with rfl | hotra
      · exact hvalida
      · exact hvalidas otra hotra
    · rw [List.map_cons, List.sum_cons, hsub, hsum, List.map_cons, List.sum_cons]
      push_cast
      ring

/-- Lines that satisfy the formulas are accepted one by one. -/
theorem lineas_aceptadas {lineas : List LineaExacta}
    (hleidas : List.Forall₂ (fun entrada linea => LineaExacta.Leida entrada linea) entradas lineas)
    (hescala : ∀ linea ∈ lineas, linea.ConEscala) (hvalidas : ∀ linea ∈ lineas, linea.Valida) (k : Nat) :
    ∃ aceptadas, (entradas.zipIdx k).mapM (fun entrada => lineaFiscal entrada.2 entrada.1) = .ok aceptadas ∧
      (lineas.map (·.subTotal)).sum = (((aceptadas.map (·.1)).sum : Int) : ℚ) / 10 ^ 2 := by
  induction hleidas generalizing k with
  | nil => exact ⟨[], rfl, by simp⟩
  | @cons entrada linea entradas lineas hleida _ ih =>
    obtain ⟨aceptadas, haceptadas, hsum⟩ := ih (fun l hl => hescala l (List.mem_cons_of_mem _ hl))
      (fun l hl => hvalidas l (List.mem_cons_of_mem _ hl)) (k + 1)
    obtain ⟨subTotal, impresa, hline, hsub⟩ := lineaFiscal_of_valida hleida (hescala linea List.mem_cons_self)
      (hvalidas linea List.mem_cons_self) k
    refine ⟨(subTotal, impresa) :: aceptadas, ?_, ?_⟩
    · rw [List.zipIdx_cons, List.mapM_cons, hline, ok_bind, haceptadas]
      rfl
    · rw [List.map_cons, List.sum_cons, hsub, hsum, List.map_cons, List.sum_cons]
      push_cast
      ring

/-- At an exchange rate of one the total stays as it is. -/
theorem divideRounded_totalMoneda {total : Int} (htotal : 0 ≤ total) :
    divideRounded (total * 10 ^ 5) (10 ^ 5) .halfUp = .ok total := by
  rw [divideRounded_halfUp (mul_nonneg htotal (by decide)) (by decide),
    roundHalfUp_eq (z := total) (by decide) (by omega) (by omega)]

/-- **The printed amounts satisfy the formulas**, and lines that satisfy them are accepted. -/
theorem calcularTotales_exacto (hcambio : decimalValue (tipoCambio.getD ['1']) = some 1) :
    (∀ totales, calcularTotales entradas descuentoAdicional tipoCambio = .ok totales →
      ∃ lineas descuento, FacturaExacta entradas descuentoAdicional totales lineas descuento) ∧
    (∀ lineas descuento, entradas ≠ [] →
      List.Forall₂ (fun entrada linea => LineaExacta.Leida entrada linea) entradas lineas →
      (∀ linea ∈ lineas, linea.ConEscala) → (∀ linea ∈ lineas, linea.Valida) →
      decimalValue (descuentoAdicional.getD ['0']) = some descuento → ConDecimales 2 descuento → 0 ≤ descuento →
      0 < totalExacto lineas descuento →
      ∃ totales, calcularTotales entradas descuentoAdicional tipoCambio = .ok totales) := by
  have hcambio' : parseDecimalExact (tipoCambio.getD ['1']) 5 = .ok (10 ^ 5) :=
    parseDecimalExact_eq_ok_iff.mpr (hcambio.trans (by norm_num))
  constructor
  · intro totales h
    obtain ⟨hlines, h⟩ := failIf_bind_eq_ok.mp h
    obtain ⟨aceptadas, haceptadas, h⟩ := bind_eq_ok.mp h
    obtain ⟨descuento, hdescuento, h⟩ := bind_eq_ok.mp h
    obtain ⟨htotal, h⟩ := failIf_bind_eq_ok.mp h
    rw [hcambio', ok_bind, sumMinor_eq] at h
    rw [sumMinor_eq] at htotal
    rw [divideRounded_totalMoneda (by omega)] at h
    obtain rfl := pure_eq_ok.mp h
    obtain ⟨lineas, hleidas, himpresas, hvalidas, hsum⟩ := lineas_exactas (mapM_eq_ok.mp haceptadas)
    rw [List.zipIdx_map_fst] at hleidas
    have hd : 0 ≤ descuento := by omega
    have hpos : 0 < (aceptadas.map (·.1)).sum - descuento := by omega
    have htotal : totalExacto lineas ((descuento : ℚ) / 10 ^ 2) =
        (((aceptadas.map (·.1)).sum - descuento : Int) : ℚ) / 10 ^ 2 := by
      rw [totalExacto, hsum]
      push_cast
      ring
    have hmonto := decimalValue_minorText ((aceptadas.map (·.1)).sum - descuento) 2
    rw [← htotal] at hmonto
    refine ⟨lineas, (descuento : ℚ) / 10 ^ 2, ⟨hleidas, himpresas, hvalidas, parseDecimalExact_eq_ok_iff.mp hdescuento,
      decimalValue_minorText descuento 2, by positivity, ?_, hmonto, hmonto, hmonto⟩⟩
    rw [htotal]
    have : (0 : ℚ) < (((aceptadas.map (·.1)).sum - descuento : Int) : ℚ) := by exact_mod_cast hpos
    positivity
  · rintro lineas _ hne hleidas hescala hvalidas hleido ⟨descuento, rfl⟩ hnonneg hpos
    obtain ⟨aceptadas, haceptadas, hsum⟩ := lineas_aceptadas hleidas hescala hvalidas 0
    have hdescuento : parseDecimalExact (descuentoAdicional.getD ['0']) 2 = .ok descuento :=
      parseDecimalExact_eq_ok_iff.mpr hleido
    have hd : 0 ≤ descuento := by
      rw [le_div_iff₀ (by positivity), zero_mul] at hnonneg
      exact_mod_cast hnonneg
    have htotal : 0 < (aceptadas.map (·.1)).sum - descuento := by
      rw [totalExacto, hsum, ← sub_div, div_pos_iff_of_pos_right (by positivity)] at hpos
      exact_mod_cast hpos
    have hlength : ¬entradas.length = 0 := fun h => hne (List.length_eq_zero_iff.mp h)
    have hchecks : ¬(descuento < 0 ∨ (aceptadas.map (·.1)).sum - descuento ≤ 0) := by omega
    simp only [calcularTotales, failIf_of_not hlength, haceptadas, hdescuento, sumMinor_eq, failIf_of_not hchecks, hcambio',
      divideRounded_totalMoneda htotal.le, Except.mapError, ok_bind]
    exact ⟨_, rfl⟩

end Totales

/-- Ten and a half units at 3.33, half a cent up. -/
theorem calcularTotales_exacto_medioCentavo : ∃ lineas descuento,
    FacturaExacta [⟨"10.5".toList, "3.33".toList, none⟩] none
      ⟨[⟨"10.5".toList, "3.33".toList, "0.00".toList, "34.97".toList⟩], "0.00".toList, "34.97".toList, "34.97".toList,
        "34.97".toList, 3497⟩ lineas descuento :=
  have hcambio : decimalValue ((none : Option Text).getD ['1']) = some 1 := by decide +kernel
  (calcularTotales_exacto hcambio).1 _ (by decide +kernel)

end AtlasErp
