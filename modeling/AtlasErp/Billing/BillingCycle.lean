import AtlasErp.Billing.CollectedInFull
import AtlasErp.Lib.Civil
import AtlasErp.Lib.Grouping

/-! # The monthly billing run

A run bills the charges of every merchant that were issued before a day, in invoices of at most 500 lines, under the
key of the month that is closed.

- `claveDelCicloCerrado`, `cargosDelCiclo`, `tandasDelCiclo`, `ejecutar`: the run;
- `cierre_claveDelCicloCerrado`: when the month of its key ends;
- `tandas_perm`: the batches are the charges, each once; `tanda_spec`: what a batch is. -/

namespace AtlasErp

open Lib

/-! ## The cycle -/

/-- `MONTHLY:YYYY-MM`. -/
structure CycleKey where
  anio : Int
  mes : Int
  deriving DecidableEq

def CycleKey.text (clave : CycleKey) : String := "MONTHLY:" ++ toString clave.anio ++ "-" ++ padded 2 clave.mes

/-- The day in Bolivia. -/
def hoyLocal (ahora : Instant) : Day := businessDate ahora

def sumarDias (fecha : Day) (dias : Int) : Day := fecha + dias

/-- The month before the one of a day. -/
def claveDelCicloCerrado (hoyLocal : Day) : CycleKey :=
  let hoy := civil hoyLocal
  if hoy.month = 1 then ⟨hoy.year - 1, 12⟩ else ⟨hoy.year, hoy.month - 1⟩

example : (claveDelCicloCerrado 20727).text = "MONTHLY:2026-09" := by decide

/-- `($1::date)::timestamp AT TIME ZONE 'America/La_Paz'`: when a day begins in Bolivia. -/
def medianoche (dia : Day) : Instant := dia * 86400000 + 4 * 3600 * 1000

/-- 00:00 of the first day of the month that follows the one of the key. -/
def CycleKey.cierre (clave : CycleKey) : Instant :=
  let siguiente : Civil := if clave.mes = 12 then ⟨clave.anio + 1, 1, 1⟩ else ⟨clave.anio, clave.mes + 1, 1⟩
  medianoche siguiente.toDay

/-- The month of the key ends when the month of the day begins. -/
theorem cierre_claveDelCicloCerrado (hoy : Day) :
    (claveDelCicloCerrado hoy).cierre = medianoche (civil hoy).firstOfMonth := by
  obtain ⟨hlow, hhigh, -⟩ := civil_range hoy
  unfold claveDelCicloCerrado
  by_cases hjanuary : (civil hoy).month = 1
  · simp [CycleKey.cierre, Civil.firstOfMonth, hjanuary]
  · have hmonth : (civil hoy).month - 1 ≠ 12 := by omega
    simp [CycleKey.cierre, Civil.firstOfMonth, hjanuary, hmonth]

/-! ## The tables -/

/-- `merchant_billing_runs.status`; `finished` is `DONE`, `partly` is `PARTIAL`. -/
inductive RunStatus where
  | running
  | finished
  | partly
  | failed
  deriving DecidableEq

inductive RunTrigger where
  | schedule
  | manual
  deriving DecidableEq

/-- An invoice of a run. -/
structure FacturaDeCorrida where
  invoiceId : Nat
  invoiceNumber : String
  accountId : Nat
  deriving DecidableEq

structure ErrorDeCorrida where
  accountId : Nat
  code : String
  message : String
  deriving DecidableEq

/-- `merchant_billing_runs`; its key is unique by cycle. -/
structure MerchantBillingRun where
  id : Nat
  cycleKey : CycleKey
  invoiceDate : Day
  trigger : RunTrigger
  requestedBy : Option UserId
  status : RunStatus
  accountsConsidered : Nat
  invoices : List FacturaDeCorrida
  errors : List ErrorDeCorrida
  deriving DecidableEq

instance : HasKey MerchantBillingRun := ⟨(·.id), fun k r => { r with id := k }, fun _ _ => rfl, fun _ => rfl⟩

structure CycleDb where
  billing : BillingDb
  runs : Table MerchantBillingRun
  deriving DecidableEq

structure OpcionesCorrida where
  trigger : RunTrigger
  requestedBy : Option UserId
  ahora : Instant
  deriving DecidableEq

/-- `ResultadoCorrida`; without a run and a status of its own, it is `ALREADY_RUN`. -/
structure ResultadoCorrida where
  runId : Option Nat
  cycleKey : CycleKey
  status : Option RunStatus
  facturas : List FacturaDeCorrida
  errors : List ErrorDeCorrida
  deriving DecidableEq

/-! ## The charges of a cycle -/

section Tandas

-- the column `issued_at`, by the id of the charge: it is written when the charge is created, and never again
variable (issuedAt : Nat → Instant)

/-- `WHERE status = 'PENDING' AND invoice_id IS NULL AND amount_open > 0`. -/
def MerchantReceivable.facturable (r : MerchantReceivable) : Bool :=
  r.status = .pending ∧ r.invoiceId = none ∧ 0 < r.amountOpen

/-- `ORDER BY account_id, currency, issued_at, id`. -/
def antes (r x : MerchantReceivable) : Bool :=
  if r.accountId ≠ x.accountId then r.accountId < x.accountId
  else if r.currency ≠ x.currency then r.currency < x.currency
  else if issuedAt r.id ≠ issuedAt x.id then issuedAt r.id < issuedAt x.id
  else r.id ≤ x.id

/-- The charges that were issued before a day. -/
def cargosDelCiclo (db : BillingDb) (hoy : Day) : List MerchantReceivable :=
  (db.receivables.rowsWhere fun r => r.facturable ∧ issuedAt r.id < medianoche hoy).mergeSort (antes issuedAt)

/-- A fiscal invoice has 500 lines at most. -/
def MAX_LINEAS_POR_FACTURA : Nat := 500

/-- The charges of one `issueInvoice`. -/
structure Tanda where
  accountId : Nat
  ids : List Nat
  deriving DecidableEq

/-- The group of a charge: `account_id|currency`. -/
def grupoDe (r : MerchantReceivable) : Nat × String := (r.accountId, r.currency)

/-- The batches of the groups. -/
def tandasDelCiclo (cargos : List MerchantReceivable) : List Tanda :=
  (keysOf grupoDe cargos).flatMap fun clave =>
    (slices MAX_LINEAS_POR_FACTURA ((cargos.filter fun r => grupoDe r = clave).map (·.id))).map fun ids =>
      ⟨clave.1, ids⟩

theorem mem_cargosDelCiclo {db : BillingDb} {hoy : Day} {r : MerchantReceivable} :
    r ∈ cargosDelCiclo issuedAt db hoy ↔
      r ∈ db.receivables ∧ r.facturable = true ∧ issuedAt r.id < medianoche hoy := by
  rw [cargosDelCiclo, List.mem_mergeSort, Table.mem_rowsWhere, decide_eq_true_eq]

/-- **The batches are the charges**, each of them once. -/
theorem tandas_perm (cargos : List MerchantReceivable) :
    ((tandasDelCiclo cargos).flatMap (·.ids)).Perm (cargos.map (·.id)) := by
  have hgroup : ∀ clave : Nat × String,
      ((slices MAX_LINEAS_POR_FACTURA ((cargos.filter fun r => grupoDe r = clave).map (·.id))).map
        fun ids => (⟨clave.1, ids⟩ : Tanda)).flatMap (·.ids) = (cargos.filter fun r => grupoDe r = clave).map (·.id) := by
    intro clave
    rw [List.flatMap_map, List.flatMap_id', flatten_slices (by decide)]
  have hflat : (tandasDelCiclo cargos).flatMap (·.ids) =
      ((keysOf grupoDe cargos).flatMap fun clave => cargos.filter fun r => grupoDe r = clave).map (·.id) := by
    rw [tandasDelCiclo, List.flatMap_assoc, List.map_flatMap]
    exact congrArg (List.flatMap · _) (funext hgroup)
  rw [hflat]
  exact (perm_groups grupoDe (nodup_keysOf _ _) fun r hr => mem_keysOf.mpr ⟨r, hr, rfl⟩).map _

/-- **What a batch is**: at most 500 charges of one account and one currency. -/
theorem tanda_spec {cargos : List MerchantReceivable} {tanda : Tanda} (h : tanda ∈ tandasDelCiclo cargos) :
    tanda.ids.length ≤ MAX_LINEAS_POR_FACTURA ∧ ∃ currency, ∀ id ∈ tanda.ids,
      ∃ r ∈ cargos, r.id = id ∧ r.accountId = tanda.accountId ∧ r.currency = currency := by
  obtain ⟨clave, -, h⟩ := List.mem_flatMap.mp h
  obtain ⟨ids, hids, rfl⟩ := List.mem_map.mp h
  refine ⟨length_le_of_mem_slices hids, clave.2, fun id hid => ?_⟩
  have hmem : id ∈ (slices MAX_LINEAS_POR_FACTURA ((cargos.filter fun r => grupoDe r = clave).map (·.id))).flatten :=
    List.mem_flatten.mpr ⟨ids, hids, hid⟩
  rw [flatten_slices (by decide)] at hmem
  obtain ⟨r, hr, rfl⟩ := List.mem_map.mp hmem
  obtain ⟨hr, hgroup⟩ := List.mem_filter.mp hr
  have hgroup : (r.accountId, r.currency) = clave := of_decide_eq_true hgroup
  exact ⟨r, hr, rfl, congrArg Prod.fst hgroup, congrArg Prod.snd hgroup⟩

end Tandas

/-! ## The run -/

/-- The name of the exception of an error, where it has no code. -/
def HttpStatus.exceptionName : HttpStatus → String
  | .badRequest => "BadRequestException"
  | .forbidden => "ForbiddenException"
  | .notFound => "NotFoundException"
  | .conflict => "ConflictException"
  | .unprocessableEntity => "UnprocessableEntityException"
  | .internalServerError => "Error"

/-- The entry of a batch that fails. -/
def errorDeTanda (tanda : Tanda) (e : HttpError) : ErrorDeCorrida :=
  ⟨tanda.accountId, e.code.getD e.status.exceptionName, e.message⟩

/-- What a run did so far. -/
structure ProgresoCorrida where
  billing : BillingDb
  facturas : List FacturaDeCorrida
  errores : List ErrorDeCorrida

/-- The status of a run that ends. -/
def estadoFinal (facturas : List FacturaDeCorrida) (errores : List ErrorDeCorrida) : RunStatus :=
  if errores = [] then .finished else if facturas ≠ [] then .partly else .failed

section Run

variable (issuedAt : Nat → Instant) (MERCHANT_BILLING_DUE_DAYS : Int)

/-- The body of the invoice of a batch. -/
def Tanda.input (tanda : Tanda) (hoy : Day) : IssueInvoiceDto where
  accountId := tanda.accountId
  contractId := none
  invoiceDate := hoy
  dueDate := sumarDias hoy MERCHANT_BILLING_DUE_DAYS
  receivableIds := tanda.ids
  externalTaxRef := none

/-- One batch.  A merchant that fails does not stop the others. -/
def emitirTanda (hoy : Day) (p : ProgresoCorrida) (x : Tanda × IssueContext) : ProgresoCorrida :=
  match issueInvoice p.billing (x.1.input MERCHANT_BILLING_DUE_DAYS hoy) x.2 with
  | .ok (invoice, billing) =>
    { p with billing, facturas := p.facturas ++ [⟨invoice.id, invoice.invoiceNumber, x.1.accountId⟩] }
  | .error e => { p with errores := p.errores ++ [errorDeTanda x.1 e] }

/-- The batches of a run, each with what the rest of the system gives its `issueInvoice`. -/
def tandasDeCorrida (contexts : Nat → IssueContext) (db : BillingDb) (hoy : Day) : List (Tanda × IssueContext) :=
  (tandasDelCiclo (cargosDelCiclo issuedAt db hoy)).zipIdx.map fun x => (x.1, contexts x.2)

theorem map_fst_tandasDeCorrida (contexts : Nat → IssueContext) (db : BillingDb) (hoy : Day) :
    (tandasDeCorrida issuedAt contexts db hoy).map (·.1) = tandasDelCiclo (cargosDelCiclo issuedAt db hoy) := by
  rw [tandasDeCorrida, List.map_map]
  exact List.zipIdx_map_fst 0 _

/-- The run on its own.  A cycle that is claimed is not run again. -/
def ejecutar (contexts : Nat → IssueContext) (db : CycleDb) (opciones : OpcionesCorrida) :
    CycleDb × ResultadoCorrida :=
  let hoy := hoyLocal opciones.ahora
  let cycleKey := claveDelCicloCerrado hoy
  if (db.runs.findBy (·.cycleKey = cycleKey)).isSome then (db, ⟨none, cycleKey, none, [], []⟩)
  else
    let tandas := tandasDeCorrida issuedAt contexts db.billing hoy
    let fin := tandas.foldl (emitirTanda MERCHANT_BILLING_DUE_DAYS hoy) ⟨db.billing, [], []⟩
    let status := estadoFinal fin.facturas fin.errores
    ({ billing := fin.billing
       runs := db.runs.create fun id =>
        { id
          cycleKey
          invoiceDate := hoy
          trigger := opciones.trigger
          requestedBy := opciones.requestedBy
          status
          accountsConsidered := ((tandas.map (·.1.accountId)).dedup).length
          invoices := fin.facturas
          errors := fin.errores } },
      ⟨some db.runs.nextKey, cycleKey, some status, fin.facturas, fin.errores⟩)

end Run

end AtlasErp
