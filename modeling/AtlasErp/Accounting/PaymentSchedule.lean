import AtlasErp.Accounting.DoubleAmounts
import AtlasErp.Lib.Months

/-! # When a supplier is paid

The terms agreed with a supplier give the due date of an invoice and split its amount: what is paid in advance is rounded
to cents, and the rest is what remains.

- `revisarCondicion`: why terms cannot be executed;
- `calcularFechasDePago`: the dates and the split, in `number`s;
- `SplitsInto`: what a split of an amount of cents is;
- `calcular_splits`: **nothing is lost**: both parts are amounts of cents that add up, and the advance is the nearest one. -/

namespace AtlasErp

open Lib

/-! ## Vocabulary -/

inductive ModalidadDePago where
  | contado
  | credito
  | anticipo
  | contraEntrega
  | parcial
  | hitos
  | recurrente
  deriving DecidableEq

/-- `diasFijos`; the term fixes the days of the others. -/
def ModalidadDePago.diasFijos : ModalidadDePago → Option Int
  | .contado | .anticipo | .contraEntrega => some 0
  | .credito | .parcial | .hitos | .recurrente => none

def ModalidadDePago.label : ModalidadDePago → String
  | .contado => "Contado"
  | .credito => "Crédito"
  | .anticipo => "Anticipo"
  | .contraEntrega => "Contra entrega"
  | .parcial => "Pago parcial"
  | .hitos => "Por hitos"
  | .recurrente => "Recurrente"

inductive BaseDeComputo where
  | fechaFactura
  | fechaRecepcion
  | finDeMes
  deriving DecidableEq

inductive MedioDePago where
  | transferencia
  | cheque
  | efectivo
  | tarjeta
  | qr
  | compensacion
  deriving DecidableEq

def MedioDePago.exigeCuenta : MedioDePago → Bool
  | .transferencia | .qr => true
  | .cheque | .efectivo | .tarjeta | .compensacion => false

def MedioDePago.label : MedioDePago → String
  | .transferencia => "Transferencia bancaria"
  | .cheque => "Cheque"
  | .efectivo => "Efectivo"
  | .tarjeta => "Tarjeta"
  | .qr => "Pago con QR"
  | .compensacion => "Compensación de saldos"

structure CondicionDePago where
  modalidad : ModalidadDePago
  baseDeComputo : BaseDeComputo
  plazoDias : Int
  medioDePago : MedioDePago
  porcentajeAnticipo : Double
  cuentaBancariaId : Option Nat
  deriving DecidableEq

/-! ## Checks -/

structure ProblemaDeCondicion where
  code : String
  message : String
  deriving DecidableEq

/-- A problem, if there is one. -/
def problema (c : Prop) [Decidable c] (code message : String) : List ProblemaDeCondicion := if c then [⟨code, message⟩] else []

def revisarCondicion (condicion : CondicionDePago) : List ProblemaDeCondicion :=
  let anticipo := condicion.porcentajeAnticipo
  problema (condicion.modalidad.diasFijos = none ∧ condicion.plazoDias ≤ 0) "PLAZO_REQUERIDO"
      ("La modalidad «" ++ condicion.modalidad.label ++ "» necesita un plazo en días mayor que cero.") ++
    problema (condicion.plazoDias < 0) "PLAZO_NEGATIVO" "El plazo no puede ser negativo." ++
    problema (anticipo.lt (.finite 0) = true ∨ Double.lt (.finite 100) anticipo = true) "ANTICIPO_FUERA_DE_RANGO"
      "El porcentaje de anticipo debe estar entre 0 y 100." ++
    problema (condicion.modalidad ≠ .anticipo ∧ Double.lt (.finite 0) anticipo = true) "ANTICIPO_SIN_MODALIDAD"
      "Hay un porcentaje de anticipo pero la modalidad no es «Anticipo»." ++
    problema (condicion.modalidad = .anticipo ∧ anticipo.same (.finite 0) = true) "ANTICIPO_SIN_PORCENTAJE"
      "La modalidad «Anticipo» necesita un porcentaje mayor que cero." ++
    problema (condicion.medioDePago.exigeCuenta = true ∧ condicion.cuentaBancariaId = none) "CUENTA_REQUERIDA"
      ("El medio «" ++ condicion.medioDePago.label ++ "» exige una cuenta bancaria del proveedor.")

/-! ## Dates and amounts -/

namespace Double

/-- `x * y`, of finite numbers. -/
def mul : Double → Double → Double
  | .finite x, .finite y => nearest (x * y)
  | _, _ => .nan

/-- `x / 100`. -/
def hundredth : Double → Double
  | .finite x => nearest (x / 100)
  | d => d

/-- `Math.round`: of two the larger. -/
def round : Double → Double
  | .finite x => .finite ⌊x + 1 / 2⌋
  | d => d

end Double

structure EntradaDePago where
  fechaFactura : Day
  fechaRecepcion : Option Day
  importe : Double
  deriving DecidableEq

structure FechasDelPago where
  base : Day
  vencimiento : Day
  montoAnticipo : Double
  montoDiferido : Double
  deriving DecidableEq

/-- The last day of the month of a date. -/
def finDeMes (fecha : Day) : Day := monthStart ((civil fecha).monthIndex + 1) - 1

/-- Where the days are counted from; without a reception, from the invoice. -/
def baseDelPago (condicion : CondicionDePago) (entrada : EntradaDePago) : Day :=
  match condicion.baseDeComputo with
  | .fechaRecepcion => entrada.fechaRecepcion.getD entrada.fechaFactura
  | .finDeMes => finDeMes entrada.fechaFactura
  | .fechaFactura => entrada.fechaFactura

def calcularFechasDePago (condicion : CondicionDePago) (entrada : EntradaDePago) : FechasDelPago :=
  let base := baseDelPago condicion entrada
  let dias := condicion.modalidad.diasFijos.getD condicion.plazoDias
  let porcentaje := if condicion.modalidad = .anticipo then condicion.porcentajeAnticipo else .finite 0
  let montoAnticipo := (entrada.importe.mul porcentaje).round.hundredth
  { base
    vencimiento := base + dias
    montoAnticipo
    montoDiferido := (((entrada.importe.sub montoAnticipo).mul (.finite 100)).round).hundredth }

-- 30 % of 0.05 is a cent and a half
example : calcularFechasDePago ⟨.anticipo, .finDeMes, 0, .efectivo, .finite 30, none⟩ ⟨20720, none, Double.cents 5⟩ =
    ⟨20726, 20726, Double.cents 2, Double.cents 3⟩ := by decide +kernel

/-! ## The split -/

section Split

variable {c j k : Nat} {x q y : ℚ}

/-- A product or a difference that is not tiny has a double that is near. -/
theorem exists_near_double (h : x = 0 ∨ 1 / 10 ^ 6 ≤ |x|) (hle : |x| ≤ 10 ^ 20) :
    ∃ z, Double.nearest x = .finite z ∧ |z - x| ≤ |x| / 2 ^ 53 := by
  rcases h with rfl | hlarge
  · exact ⟨0, rfl, by simp⟩
  have hnormal : (2 : ℚ) ^ (-1022 : Int) ≤ |x| := by
    calc (2 : ℚ) ^ (-1022 : Int) ≤ 2 ^ (-20 : Int) := zpow_le_zpow_right₀ one_le_two (by norm_num)
      _ ≤ 1 / 10 ^ 6 := by norm_num
      _ ≤ |x| := hlarge
  obtain ⟨z, hz⟩ := Double.exists_finite hnormal (by
    calc |x| ≤ 10 ^ 20 := hle
      _ ≤ 2 ^ 100 := by norm_num
      _ ≤ 2 ^ 1000 := pow_le_pow_right₀ one_le_two (by norm_num))
  exact ⟨z, hz, Double.abs_nearest_sub_le hnormal hz⟩

theorem round_of_near {n : Int} (h : |y - n| < 1 / 2) : ⌊y + 1 / 2⌋ = n := by
  obtain ⟨hlow, hhigh⟩ := abs_lt.mp h
  rw [Int.floor_eq_iff]
  constructor <;> linarith

/-- The product of two amounts, as numbers. -/
theorem mul_near (hx : |100 * x - c| ≤ c / 2 ^ 53) (hq : |100 * q - j| ≤ j / 2 ^ 53) :
    |x * q - (c : ℚ) * j / 10 ^ 4| ≤ 3 * ((c : ℚ) * j / 10 ^ 4) / 2 ^ 53 := by
  have hc : (0 : ℚ) ≤ c := by positivity
  have hj : (0 : ℚ) ≤ j := by positivity
  have hsplit : x * q - c * j / 10 ^ 4 = ((100 * x - c) * j + c * (100 * q - j) + (100 * x - c) * (100 * q - j)) / 10 ^ 4 := by
    ring
  rw [hsplit, abs_div, abs_of_pos (by norm_num : (0 : ℚ) < 10 ^ 4), div_le_iff₀ (by norm_num)]
  calc |(100 * x - c) * j + c * (100 * q - j) + (100 * x - c) * (100 * q - j)|
      ≤ |(100 * x - c) * j| + |c * (100 * q - j)| + |(100 * x - c) * (100 * q - j)| := abs_add_three _ _ _
    _ = |100 * x - c| * j + c * |100 * q - j| + |100 * x - c| * |100 * q - j| := by
      rw [abs_mul, abs_mul, abs_mul, abs_of_nonneg hj, abs_of_nonneg hc]
    _ ≤ c / 2 ^ 53 * j + c * (j / 2 ^ 53) + c / 2 ^ 53 * (j / 2 ^ 53) := by gcongr
    _ ≤ 3 * ((c : ℚ) * j / 10 ^ 4) / 2 ^ 53 * 10 ^ 4 := by
      have hproduct : 0 ≤ (c : ℚ) * j := mul_nonneg hc hj
      nlinarith

/-- The advance: an amount of cents that is near the share. -/
theorem exists_anticipo (hc : c ≤ 10 ^ 13) (hj : j ≤ 10 ^ 4) : ∃ k : Nat, k ≤ c ∧
    ((Double.cents c).mul (Double.cents j)).round.hundredth = Double.cents k ∧
      |(k : ℚ) - c * j / 10 ^ 4| ≤ 1 / 2 + (c : ℚ) / 2 ^ 50 := by
  obtain ⟨x, hx, hnearx⟩ := Double.exists_cents (c := c) (hc.trans (by norm_num))
  obtain ⟨q, hq, hnearq⟩ := Double.exists_cents (c := j) (hj.trans (by norm_num))
  have hmul := mul_near hnearx hnearq
  obtain ⟨T, hT⟩ : ∃ T : ℚ, (c * j / 10 ^ 4 : ℚ) = T := ⟨_, rfl⟩
  rw [hT] at hmul ⊢
  have hcle : (c : ℚ) ≤ 10 ^ 13 := by exact_mod_cast hc
  have hT0 : 0 ≤ T := by rw [← hT]; positivity
  have hTc : T ≤ c := by
    rw [← hT, div_le_iff₀ (by norm_num)]
    have hjle : (j : ℚ) ≤ 10 ^ 4 := by exact_mod_cast hj
    gcongr
  have hbounds := abs_le.mp hmul
  have hsmall : 3 * T / 2 ^ 53 ≤ T / 4 := by
    rw [div_le_div_iff₀ (by norm_num) (by norm_num)]
    nlinarith
  obtain ⟨z, hz, hnearz⟩ := exists_near_double (x := x * q) (by
    rcases Nat.eq_zero_or_pos (c * j) with hzero | hpos
    · left
      have hTzero : T = 0 := by rw [← hT, ← Nat.cast_mul, hzero]; simp
      rw [hTzero, sub_zero, mul_zero, zero_div] at hmul
      exact abs_nonpos_iff.mp hmul
    · right
      have hone : (1 : ℚ) ≤ c * j := by exact_mod_cast hpos
      have hTlow : 1 / 10 ^ 4 ≤ T := by rw [← hT]; gcongr
      rw [abs_of_nonneg (by linarith)]
      norm_num at hTlow ⊢
      linarith) (by rw [abs_of_nonneg (by linarith)]; linarith)
  rw [abs_of_nonneg (show 0 ≤ x * q by linarith)] at hnearz
  have hzT : |z - T| ≤ 5 * c / 2 ^ 53 := by
    have hproduct : x * q / 2 ^ 53 ≤ 2 * c / 2 ^ 53 := div_le_div_of_nonneg_right (by linarith) (by norm_num)
    have hshare : 3 * T / 2 ^ 53 ≤ 3 * c / 2 ^ 53 := by gcongr
    calc |z - T| = |(z - x * q) + (x * q - T)| := by congr 1; ring
      _ ≤ |z - x * q| + |x * q - T| := abs_add_le _ _
      _ ≤ 2 * c / 2 ^ 53 + 3 * c / 2 ^ 53 := by linarith
      _ = 5 * c / 2 ^ 53 := by ring
  have htiny : 5 * (c : ℚ) / 2 ^ 53 ≤ 1 / 100 := by
    calc 5 * (c : ℚ) / 2 ^ 53 ≤ 5 * 10 ^ 13 / 2 ^ 53 := by gcongr
      _ ≤ 1 / 100 := by norm_num
  have hzbounds := abs_le.mp hzT
  have hlow : 0 ≤ ⌊z + 1 / 2⌋ := Int.floor_nonneg.mpr (by linarith)
  have hhigh : ⌊z + 1 / 2⌋ ≤ c := by
    have hlt : ⌊z + 1 / 2⌋ < (c : Int) + 1 := by
      rw [Int.floor_lt]
      push_cast
      linarith
    omega
  obtain ⟨k, hk⟩ := Int.eq_ofNat_of_zero_le hlow
  refine ⟨k, by omega, ?_, ?_⟩
  · rw [hx, hq, Double.mul, hz, Double.round, hk, Double.hundredth, Double.cents, Int.cast_natCast]
  · have hfloor := Int.floor_le (z + 1 / 2)
    have hceil := Int.lt_floor_add_one (z + 1 / 2)
    rw [hk, Int.cast_natCast] at hfloor hceil
    have hroom : 5 * (c : ℚ) / 2 ^ 53 ≤ c / 2 ^ 50 := by
      rw [div_le_div_iff₀ (by norm_num) (by norm_num)]
      have hnonneg : (0 : ℚ) ≤ c := by positivity
      nlinarith
    rw [abs_le]
    constructor <;> linarith

/-- The rest: what remains of the amount. -/
theorem diferido_of_anticipo (hc : c ≤ 10 ^ 13) (hk : k ≤ c) :
    ((((Double.cents c).sub (Double.cents k)).mul (.finite 100)).round).hundredth = Double.cents (c - k) := by
  obtain ⟨x, hx, hnearx⟩ := Double.exists_cents (c := c) (hc.trans (by norm_num))
  obtain ⟨y, hy, hneary⟩ := Double.exists_cents (c := k) ((hk.trans hc).trans (by norm_num))
  have hcle : (c : ℚ) ≤ 10 ^ 13 := by exact_mod_cast hc
  have hkle : (k : ℚ) ≤ c := by exact_mod_cast hk
  have htiny : (c : ℚ) / 2 ^ 53 ≤ 1 / 500 := by
    calc (c : ℚ) / 2 ^ 53 ≤ 10 ^ 13 / 2 ^ 53 := by gcongr
      _ ≤ 1 / 500 := by norm_num
  have hkshare : (k : ℚ) / 2 ^ 53 ≤ c / 2 ^ 53 := by gcongr
  have hxbounds := abs_le.mp hnearx
  have hybounds := abs_le.mp hneary
  rcases hk.eq_or_lt with rfl | hlt
  · rw [Nat.sub_self, hx, Double.sub, sub_self]
    decide +kernel
  have hone : (1 : ℚ) ≤ c - k := by
    have hle : (k : ℚ) + 1 ≤ c := by exact_mod_cast hlt
    linarith
  have hdiff : 0 < x - y := by linarith
  obtain ⟨w, hw, hnearw⟩ := exists_near_double (x := x - y) (by
    right
    rw [abs_of_pos hdiff]
    norm_num
    linarith) (by rw [abs_of_pos hdiff]; linarith)
  rw [abs_of_pos hdiff] at hnearw
  have hwshare : (x - y) / 2 ^ 53 ≤ 1 / 10000 := by
    calc (x - y) / 2 ^ 53 ≤ (10 ^ 11 + 1) / 2 ^ 53 := div_le_div_of_nonneg_right (by linarith) (by norm_num)
      _ ≤ 1 / 10000 := by norm_num
  have hwbounds := abs_le.mp hnearw
  have hscaled : 0 < w * 100 := by linarith
  obtain ⟨v, hv, hnearv⟩ := exists_near_double (x := w * 100) (by
    right
    rw [abs_of_pos hscaled]
    norm_num
    linarith) (by rw [abs_of_pos hscaled]; linarith)
  rw [abs_of_pos hscaled] at hnearv
  have hvshare : w * 100 / 2 ^ 53 ≤ 1 / 100 := by
    calc w * 100 / 2 ^ 53 ≤ (10 ^ 13 + 200) / 2 ^ 53 := div_le_div_of_nonneg_right (by linarith) (by norm_num)
      _ ≤ 1 / 100 := by norm_num
  have hvbounds := abs_le.mp hnearv
  have hround : ⌊v + 1 / 2⌋ = ((c - k : Nat) : Int) := by
    refine round_of_near ?_
    rw [Int.cast_natCast, Nat.cast_sub hk, abs_lt]
    constructor <;> linarith
  rw [hx, hy, Double.sub, hw, Double.mul, hv, Double.round, hround, Double.hundredth, Double.cents, Int.cast_natCast]

/-- **The split of an amount of cents**: nothing is lost, and the advance is the nearest amount to its share. -/
theorem calcular_splits {condicion : CondicionDePago} {entrada : EntradaDePago} (hc : c ≤ 10 ^ 13) (hj : j ≤ 10 ^ 4)
    (himporte : entrada.importe = Double.cents c) (hporcentaje : condicion.porcentajeAnticipo = Double.cents j) :
    ∃ k : Nat, k ≤ c ∧ (calcularFechasDePago condicion entrada).montoAnticipo = Double.cents k ∧
      (calcularFechasDePago condicion entrada).montoDiferido = Double.cents (c - k) ∧
      if condicion.modalidad = .anticipo then |(k : ℚ) - c * j / 10 ^ 4| ≤ 1 / 2 + (c : ℚ) / 2 ^ 50 else k = 0 := by
  have hzero : Double.finite 0 = Double.cents 0 := by simp [Double.cents, Double.nearest]
  simp only [calcularFechasDePago, himporte, hporcentaje]
  by_cases hanticipo : condicion.modalidad = .anticipo
  · obtain ⟨k, hk, hadvance, hnear⟩ := exists_anticipo hc hj
    rw [if_pos hanticipo, hadvance]
    exact ⟨k, hk, rfl, diferido_of_anticipo hc hk, by rwa [if_pos hanticipo]⟩
  · obtain ⟨k, hk, hadvance, hnear⟩ := exists_anticipo (j := 0) hc (by omega)
    rw [if_neg hanticipo, hzero, hadvance]
    refine ⟨k, hk, rfl, diferido_of_anticipo hc hk, ?_⟩
    rw [if_neg hanticipo]
    have hcle : (c : ℚ) ≤ 10 ^ 13 := by exact_mod_cast hc
    have hshare : (c : ℚ) / 2 ^ 50 ≤ 1 / 4 := by
      calc (c : ℚ) / 2 ^ 50 ≤ 10 ^ 13 / 2 ^ 50 := by gcongr
        _ ≤ 1 / 4 := by norm_num
    have hlt : (k : ℚ) < 1 := by
      have hle := (abs_le.mp hnear).2
      simp only [Nat.cast_zero, mul_zero, zero_div, sub_zero] at hle
      linarith
    exact Nat.lt_one_iff.mp (by exact_mod_cast hlt)

end Split

/-! ## The dates -/

section Dates

variable {condicion : CondicionDePago} {entrada : EntradaDePago} {fecha : Day}

/-- The end of a month is its last day. -/
theorem finDeMes_spec (fecha : Day) : fecha ≤ finDeMes fecha ∧
    (civil (finDeMes fecha)).monthIndex = (civil fecha).monthIndex ∧ (civil (finDeMes fecha + 1)).day = 1 := by
  have hvalid := civil_valid fecha
  obtain ⟨hyear, hmonth⟩ := monthIndex_split hvalid.month_pos hvalid.month_le
  have hlt := toDay_lt_next hvalid
  rw [toDay_civil] at hlt
  obtain ⟨i, hi⟩ : ∃ i, (civil fecha).monthIndex = i := ⟨_, rfl⟩
  rw [hi] at hlt hyear hmonth
  have hdays := daysInMonth_range (i / 12) (i % 12 + 1)
  have hlast : Civil.Valid ⟨i / 12, i % 12 + 1, daysInMonth (i / 12) (i % 12 + 1)⟩ :=
    ⟨by dsimp only; omega, by dsimp only; omega, by dsimp only; omega, le_rfl⟩
  have hindex : Civil.monthIndex ⟨i / 12, i % 12 + 1, daysInMonth (i / 12) (i % 12 + 1)⟩ = i := by
    simp only [Civil.monthIndex]
    omega
  have hday : finDeMes fecha = Civil.toDay ⟨i / 12, i % 12 + 1, daysInMonth (i / 12) (i % 12 + 1)⟩ := by
    rw [toDay_eq_monthStart hlast.month_pos hlast.month_le, hindex, finDeMes, hi, monthStart_succ]
    exact add_sub_assoc _ _ _
  refine ⟨by rw [finDeMes, hi]; exact Int.le_sub_one_of_lt hlt, ?_, ?_⟩
  · rw [hday, civil_toDay hlast, hindex, hi]
  · have hnext : Civil.Valid ⟨(i + 1) / 12, (i + 1) % 12 + 1, 1⟩ := by
      have hrange := daysInMonth_range ((i + 1) / 12) ((i + 1) % 12 + 1)
      exact ⟨by dsimp only; omega, by dsimp only; omega, le_rfl, by dsimp only; omega⟩
    rw [finDeMes, hi, sub_add_cancel, monthStart, civil_toDay hnext]

/-- Without a reception the payment is not due later than with any from the invoice on. -/
theorem vencimiento_sin_recepcion {recepcion : Day} (hnone : entrada.fechaRecepcion = none)
    (hle : entrada.fechaFactura ≤ recepcion) : (calcularFechasDePago condicion entrada).vencimiento ≤
      (calcularFechasDePago condicion { entrada with fechaRecepcion := some recepcion }).vencimiento := by
  have hbase : baseDelPago condicion entrada ≤ baseDelPago condicion { entrada with fechaRecepcion := some recepcion } := by
    unfold baseDelPago
    cases condicion.baseDeComputo with
    | fechaFactura => exact le_rfl
    | finDeMes => exact le_rfl
    | fechaRecepcion => simpa [hnone] using hle
  exact add_le_add_left hbase _

/-- Nothing is due before the invoice when the reception is not before it. -/
theorem fechaFactura_le_base (hrecepcion : ∀ r ∈ entrada.fechaRecepcion, entrada.fechaFactura ≤ r) :
    entrada.fechaFactura ≤ baseDelPago condicion entrada := by
  unfold baseDelPago
  cases condicion.baseDeComputo with
  | fechaFactura => exact le_rfl
  | finDeMes => exact (finDeMes_spec _).1
  | fechaRecepcion =>
    cases hsome : entrada.fechaRecepcion with
    | none => exact le_rfl
    | some r => exact hrecepcion r hsome

end Dates

end AtlasErp
