import AtlasErp.Accounting.Documents
import AtlasErp.Accounting.PaymentSchedule
import AtlasErp.Lib.Workers

/-! # The payment terms of suppliers

Terms are checked before they are saved.  A renegotiation reads the row, checks what the row would be with its changes,
and writes the changes later, with nothing locked; the table keeps a percentage with two decimals.

- `create`, `update`, `simulate`: the service;
- `termsMachine`: requests in any interleaving;
- `TermsKept`: what the table keeps in every run, one active row for a supplier and a currency among it;
- `WritesWhatItChecked`: a percentage has two decimals, and a renegotiation finds the row it read;
- `payment_terms_executable`: **in runs that meet it** every stored row can be executed;
- `simulated_schedule_adds_up`: in every run a simulation of any row splits an amount without a loss. -/

namespace AtlasErp

open Lib

inductive EstadoCondicion where
  | borrador
  | activa
  | suspendida
  | vencida
  | archivada
  deriving DecidableEq

/-- A row of `supplier_payment_terms`. -/
structure SupplierPaymentTerms where
  id : Nat
  legalEntityId : Nat
  supplierBpId : Nat
  code : Text
  currencyCode : String
  modality : ModalidadDePago
  computationBase : BaseDeComputo
  termDays : Int
  paymentMethod : MedioDePago
  bpBankAccountId : Option Nat
  /-- `NUMERIC(5,2)`, in hundredths. -/
  advancePercentage : Int
  status : EstadoCondicion
  validFrom : Day
  validTo : Option Day
  deriving DecidableEq

instance : HasKey SupplierPaymentTerms :=
  ⟨(·.id), fun k r => { r with id := k }, fun _ _ => rfl, fun _ => rfl⟩

/-! ## Requests -/

structure CreateSupplierPaymentTermsDto where
  legalEntityId : Nat
  supplierBpId : Nat
  code : Text
  currencyCode : String
  modality : ModalidadDePago
  computationBase : BaseDeComputo
  termDays : Int
  paymentMethod : MedioDePago
  bpBankAccountId : Option Nat
  advancePercentage : Double
  status : EstadoCondicion
  validFrom : Day
  validTo : Option Day

/-- The fields that a renegotiation brings; an account and an end of validity may be taken away. -/
structure UpdateSupplierPaymentTermsDto where
  modality : Option ModalidadDePago
  computationBase : Option BaseDeComputo
  termDays : Option Int
  paymentMethod : Option MedioDePago
  bpBankAccountId : Option (Option Nat)
  advancePercentage : Option Double
  status : Option EstadoCondicion
  validFrom : Option Day
  validTo : Option (Option Day)

/-- `z.coerce.number().min(0).max(100)`. -/
def isPorcentaje : Double → Bool
  | .finite x => 0 ≤ x ∧ x ≤ 100
  | _ => false

/-- `z.coerce.number().int().min(0).max(3650)`. -/
def isTermDays (days : Int) : Bool := 0 ≤ days ∧ days ≤ 3650

def CreateSupplierPaymentTermsDto.parses (input : CreateSupplierPaymentTermsDto) : Bool :=
  isTermDays input.termDays && isPorcentaje input.advancePercentage && input.validTo.all (input.validFrom ≤ ·)

def UpdateSupplierPaymentTermsDto.parses (input : UpdateSupplierPaymentTermsDto) : Bool :=
  input.termDays.all isTermDays && input.advancePercentage.all isPorcentaje

/-! ## Conditions -/

/-- `toCondicion` of a row: the percentage is a text. -/
def SupplierPaymentTerms.condicion (row : SupplierPaymentTerms) : CondicionDePago :=
  ⟨row.modality, row.computationBase, row.termDays, row.paymentMethod, numberOfText (minorText row.advancePercentage 2),
    row.bpBankAccountId⟩

/-- `toCondicion` of a request. -/
def CreateSupplierPaymentTermsDto.condicion (input : CreateSupplierPaymentTermsDto) : CondicionDePago :=
  ⟨input.modality, input.computationBase, input.termDays, input.paymentMethod, input.advancePercentage, input.bpBankAccountId⟩

/-- The row with the changes over it. -/
def resultante (row : SupplierPaymentTerms) (input : UpdateSupplierPaymentTermsDto) : CondicionDePago where
  modalidad := input.modality.getD row.modality
  baseDeComputo := input.computationBase.getD row.computationBase
  plazoDias := input.termDays.getD row.termDays
  medioDePago := input.paymentMethod.getD row.paymentMethod
  porcentajeAnticipo := input.advancePercentage.getD (numberOfText (minorText row.advancePercentage 2))
  cuentaBancariaId := input.bpBankAccountId.getD row.bpBankAccountId

def revisar (condicion : CondicionDePago) : Except HttpError Unit :=
  failIf (revisarCondicion condicion ≠ [])
    (unprocessable "PAYMENT_TERMS_INVALID" "La condición no se puede ejecutar tal y como está.")

/-! ## The table -/

/-- `NUMERIC(5,2)` of the text of a number that is not negative. -/
def percentColumn : Double → Int
  | .finite x => if x = 0 then 0 else numericColumn 2 ((Double.shortest x).1 * 10 ^ (Double.shortest x).2)
  | _ => 0

/-- The checks of the table. -/
structure TermsCheck (row : SupplierPaymentTerms) : Prop where
  days : 0 ≤ row.termDays
  advance : 0 ≤ row.advancePercentage ∧ row.advancePercentage ≤ 10000
  validity : ∀ validTo ∈ row.validTo, row.validFrom ≤ validTo

instance (row : SupplierPaymentTerms) : Decidable (TermsCheck row) :=
  decidable_of_iff (_ ∧ _ ∧ _) ⟨fun h => ⟨h.1, h.2.1, h.2.2⟩, fun h => ⟨h.days, h.advance, h.validity⟩⟩

/-- `uq_supplier_terms_code`. -/
def termsCodes (row : SupplierPaymentTerms) : List (Nat × Nat × Text) := [(row.legalEntityId, row.supplierBpId, row.code)]

/-- `uq_supplier_terms_activa`: of the active rows. -/
def activeTerms (row : SupplierPaymentTerms) : List (Nat × Nat × String) :=
  if row.status = .activa then [(row.legalEntityId, row.supplierBpId, row.currencyCode)] else []

/-- `traducirConflicto`. -/
def alreadyActive (currencyCode : String) : HttpError := conflict "PAYMENT_TERMS_ALREADY_ACTIVE"
  ("Ese proveedor ya tiene una condición ACTIVA en " ++ currencyCode ++
    ". Suspende la vigente antes de activar otra, o guarda ésta como BORRADOR.")

/-- What the database says of a row that is written over the row of a key, or is new. -/
def assertTermsRow (t : Table SupplierPaymentTerms) (but : Option Nat) (row : SupplierPaymentTerms) : Except HttpError Unit := do
  failIf (¬TermsCheck row) (raised "ck_supplier_terms")
  failIf (t.conflicts termsCodes but (termsCodes row) = true ∨ t.conflicts activeTerms but (activeTerms row) = true)
    (alreadyActive row.currencyCode)

section Statements

variable (t : Table SupplierPaymentTerms)

def newTerms (input : CreateSupplierPaymentTermsDto) (id : Nat) : SupplierPaymentTerms where
  id
  legalEntityId := input.legalEntityId
  supplierBpId := input.supplierBpId
  code := input.code
  currencyCode := input.currencyCode
  modality := input.modality
  computationBase := input.computationBase
  termDays := input.termDays
  paymentMethod := input.paymentMethod
  bpBankAccountId := input.bpBankAccountId
  advancePercentage := percentColumn input.advancePercentage
  status := input.status
  validFrom := input.validFrom
  validTo := input.validTo

def insertTerms (input : CreateSupplierPaymentTermsDto) : Except HttpError (Table SupplierPaymentTerms) := do
  assertTermsRow t none (newTerms input t.nextKey)
  return t.create (newTerms input)

/-- A field is written when it is given and is not what was read. -/
def written {α : Type} [DecidableEq α] (given : Option α) (read current : α) : α :=
  match given with
  | some value => if value = read then current else value
  | none => current

/-- The row after `row.update`: the percentage was read as a text, so a `number` is always written. -/
def writePatch (read : SupplierPaymentTerms) (input : UpdateSupplierPaymentTermsDto) (current : SupplierPaymentTerms) :
    SupplierPaymentTerms :=
  { current with
    modality := written input.modality read.modality current.modality
    computationBase := written input.computationBase read.computationBase current.computationBase
    termDays := written input.termDays read.termDays current.termDays
    paymentMethod := written input.paymentMethod read.paymentMethod current.paymentMethod
    bpBankAccountId := written input.bpBankAccountId read.bpBankAccountId current.bpBankAccountId
    advancePercentage := (input.advancePercentage.map percentColumn).getD current.advancePercentage
    status := written input.status read.status current.status
    validFrom := written input.validFrom read.validFrom current.validFrom
    validTo := written input.validTo read.validTo current.validTo }

def updateTerms (read : SupplierPaymentTerms) (input : UpdateSupplierPaymentTermsDto) :
    Except HttpError (Table SupplierPaymentTerms) := do
  match t.find? read.id with
  | none => return t
  | some current => do
    assertTermsRow t (some current.id) (writePatch read input current)
    return t.put (writePatch read input current)

/-! ## The service -/

def findTerms (id : Nat) (user : AuthUser) : Except HttpError SupplierPaymentTerms := do
  let row ← orFail (t.find? id) (missing "PAYMENT_TERMS_NOT_FOUND" "La condición de pago no existe.")
  assertCanAccessLegalEntity user row.legalEntityId
  return row

/-- What comes before the row of new terms is written. -/
def beginCreate (input : CreateSupplierPaymentTermsDto) (user : AuthUser) : Except HttpError Unit := do
  assertCanAccessLegalEntity user input.legalEntityId
  revisar input.condicion

/-- What comes before the changes are written: the row that was read. -/
def beginUpdate (id : Nat) (input : UpdateSupplierPaymentTermsDto) (user : AuthUser) : Except HttpError SupplierPaymentTerms := do
  let row ← findTerms t id user
  revisar (resultante row input)
  return row

structure SimulatedSchedule where
  problems : List ProblemaDeCondicion
  schedule : FechasDelPago

def simulate (id : Nat) (entrada : EntradaDePago) (user : AuthUser) : Except HttpError SimulatedSchedule := do
  let row ← findTerms t id user
  return ⟨revisarCondicion row.condicion, calcularFechasDePago row.condicion entrada⟩

end Statements

/-! ## Requests in any interleaving -/

inductive TermsTask where
  | create (input : CreateSupplierPaymentTermsDto) (user : AuthUser)
  | update (id : Nat) (input : UpdateSupplierPaymentTermsDto) (user : AuthUser)

/-- What a request is about to write. -/
inductive TermsPoint where
  | inserting (input : CreateSupplierPaymentTermsDto)
  | updating (read : SupplierPaymentTerms) (input : UpdateSupplierPaymentTermsDto)

def TermsTask.start (t : Table SupplierPaymentTerms) : TermsTask → Option TermsPoint
  | .create input user =>
    if input.parses = true ∧ beginCreate input user = .ok () then some (.inserting input) else none
  | .update id input user =>
    if input.parses then (beginUpdate t id input user).toOption.map fun read => .updating read input else none

def TermsPoint.write (t : Table SupplierPaymentTerms) : TermsPoint → Except HttpError (Table SupplierPaymentTerms)
  | .inserting input => insertTerms t input
  | .updating read input => updateTerms t read input

/-- A write that is refused changes nothing. -/
def TermsPoint.next (t : Table SupplierPaymentTerms) (p : TermsPoint) : Table SupplierPaymentTerms :=
  match p.write t with
  | .ok t' => t'
  | .error _ => t

def termsWorkers : Workers (Table SupplierPaymentTerms) TermsTask Unit Empty Empty TermsPoint where
  start task t := task.start t
  holds _ := []
  next p _ t := some (p.next t, none)
  outside e _ := e.elim

/-- From no terms. -/
def termsMachine : Machine (Sessions (Table SupplierPaymentTerms) TermsPoint) (WorkerAct TermsTask Unit Empty) :=
  termsWorkers.machine (· = Table.empty)

/-! ## Percentages -/

section Percent

variable {j : Nat}

/-- What is read of a column is the double of the percentage. -/
theorem numberOfText_column (j : Nat) : numberOfText (minorText j 2) = Double.cents j := by
  obtain ⟨entero, fraccion, hplain, hlength, hvalue⟩ := plainDecimal_minorText j 2
  rw [decide_eq_false (by omega)] at hplain
  rw [numberOfText_plain (by rwa [trim_minorText]), Double.plainValue_eq_div, hvalue, hlength, Double.cents]
  norm_num

/-- The column gives the percentage back. -/
def Lossless (d : Double) : Prop := numberOfText (minorText (percentColumn d) 2) = d

instance (d : Double) : Decidable (Lossless d) := inferInstanceAs (Decidable (_ = _))

/-- A percentage of two decimals is stored as it is. -/
theorem percentColumn_cents (hj : j ≤ 10000) : percentColumn (Double.cents j) = j := by
  rcases Nat.eq_zero_or_pos j with rfl | hpos
  · simp [percentColumn, Double.cents, Double.nearest]
  obtain ⟨x, hx, -⟩ := Double.exists_cents (c := j) (by omega)
  obtain ⟨s, e, hshortest, -, -, hvalue⟩ := Double.shortest_cents hpos (by omega) hx
  have hne : x ≠ 0 := (Double.pos_of_cents hpos (by omega) hx).ne'
  have hcolumn := numericColumn_numberOf 2 j
  simp only [hx, percentColumn, if_neg hne, hshortest, hvalue]
  rw [← hcolumn, numberOf]
  norm_num

/-- **Two decimals** are not lost. -/
theorem lossless_cents (hj : j ≤ 10000) : Lossless (Double.cents j) := by
  rw [Lossless, percentColumn_cents hj, numberOfText_column]

end Percent

/-! ## What the table keeps -/

/-- In every run: the checks of the table, and its unique indexes. -/
structure TermsKept (t : Table SupplierPaymentTerms) : Prop where
  check : ∀ row ∈ t, TermsCheck row
  codes : t.Indexed termsCodes
  active : t.Indexed activeTerms

/-- Every stored row can be executed. -/
def Executable (t : Table SupplierPaymentTerms) : Prop := ∀ row ∈ t, revisarCondicion row.condicion = []

/-- The column gives a percentage back, and a renegotiation finds the row it read. -/
def WritesWhatItChecked (p : TermsPoint) (t : Table SupplierPaymentTerms) : Prop :=
  match p with
  | .inserting input => Lossless input.advancePercentage
  | .updating read input => t.find? read.id = some read ∧ ∀ d ∈ input.advancePercentage, Lossless d

instance (p : TermsPoint) (t : Table SupplierPaymentTerms) : Decidable (WritesWhatItChecked p t) :=
  match p with
  | .inserting _ => inferInstanceAs (Decidable (Lossless _))
  | .updating _ _ => inferInstanceAs (Decidable (_ ∧ ∀ d ∈ _, Lossless d))

section Kept

variable {t t' : Table SupplierPaymentTerms} {p : TermsPoint} {row : SupplierPaymentTerms}

theorem assertTermsRow_eq_ok {but : Option Nat} (h : assertTermsRow t but row = .ok ()) :
    TermsCheck row ∧ t.conflicts termsCodes but (termsCodes row) = false ∧
      t.conflicts activeTerms but (activeTerms row) = false := by
  obtain ⟨hcheck, h⟩ := failIf_bind_eq_ok.mp h
  have hfree := not_or.mp (failIf_eq_ok.mp h)
  exact ⟨not_not.mp hcheck, by simpa using hfree.1, by simpa using hfree.2⟩

/-- **What a write does**: it adds a row, or puts one in the place of the row of its key. -/
theorem write_cases (h : p.write t = .ok t') :
    (∃ input, p = .inserting input ∧ assertTermsRow t none (newTerms input t.nextKey) = .ok () ∧ t' = t.create (newTerms input)) ∨
    (∃ read input, p = .updating read input ∧ (t.find? read.id = none ∧ t' = t ∨
      ∃ current ∈ t, current.id = read.id ∧ assertTermsRow t (some current.id) (writePatch read input current) = .ok () ∧
        t' = t.put (writePatch read input current))) := by
  cases p with
  | inserting input =>
    obtain ⟨_, hrow, h⟩ := bind_eq_ok.mp h
    exact .inl ⟨input, rfl, hrow, (pure_eq_ok.mp h).symm⟩
  | updating read input =>
    refine .inr ⟨read, input, rfl, ?_⟩
    simp only [TermsPoint.write, updateTerms] at h
    split at h
    next hnone => exact .inl ⟨hnone, (pure_eq_ok.mp h).symm⟩
    next current hfound =>
      obtain ⟨hmem, hid⟩ := Table.find?_eq_some.mp hfound
      obtain ⟨_, hrow, h⟩ := bind_eq_ok.mp h
      exact .inr ⟨current, hmem, hid, hrow, (pure_eq_ok.mp h).symm⟩

theorem TermsKept.write (h : TermsKept t) (hwrite : p.write t = .ok t') : TermsKept t' := by
  rcases write_cases hwrite with ⟨input, -, hrow, rfl⟩ | ⟨read, input, -, ⟨-, rfl⟩ | ⟨current, hmem, -, hrow, rfl⟩⟩
  · obtain ⟨hcheck, hcodes, hactive⟩ := assertTermsRow_eq_ok hrow
    refine ⟨fun row hr => ?_, h.codes.create (fun _ => rfl) hcodes, h.active.create (fun _ => rfl) hactive⟩
    rcases (Table.mem_create fun _ => rfl).mp hr with hr | rfl
    · exact h.check row hr
    · exact hcheck
  · exact h
  · obtain ⟨hcheck, hcodes, hactive⟩ := assertTermsRow_eq_ok hrow
    exact ⟨Table.forall_mem_put (fun x hx _ => h.check x hx) hcheck, h.codes.putFree hmem rfl hcodes,
      h.active.putFree hmem rfl hactive⟩

theorem TermsKept.next (h : TermsKept t) : TermsKept (p.next t) := by
  unfold TermsPoint.next
  split
  next hwrite => exact h.write hwrite
  next => exact h

/-! ## What is stored can be executed -/

/-- What is written over the row that was read. -/
theorem written_self {α : Type} [DecidableEq α] (given : Option α) (read : α) : written given read read = given.getD read := by
  cases given with
  | none => rfl
  | some value =>
    simp only [written, Option.getD_some]
    split
    next h => exact h.symm
    next => rfl

/-- The row that is written is the one that was checked. -/
theorem condicion_writePatch {input : UpdateSupplierPaymentTermsDto}
    (hpercent : ∀ d ∈ input.advancePercentage, Lossless d) :
    (writePatch row input row).condicion = resultante row input := by
  have hadvance : numberOfText (minorText ((input.advancePercentage.map percentColumn).getD row.advancePercentage) 2) =
      input.advancePercentage.getD (numberOfText (minorText row.advancePercentage 2)) := by
    cases hgiven : input.advancePercentage with
    | none => rfl
    | some d => exact hpercent d hgiven
  simp only [SupplierPaymentTerms.condicion, writePatch, written_self, hadvance, resultante]

theorem condicion_newTerms {input : CreateSupplierPaymentTermsDto} {id : Nat} (hpercent : Lossless input.advancePercentage) :
    (newTerms input id).condicion = input.condicion := by
  rw [Lossless] at hpercent
  simp only [SupplierPaymentTerms.condicion, newTerms, CreateSupplierPaymentTermsDto.condicion, hpercent]

/-- What a request has checked. -/
def TermsPoint.Checked : TermsPoint → Prop
  | .inserting input => revisarCondicion input.condicion = []
  | .updating read input => revisarCondicion (resultante read input) = []

theorem checked_of_start {task : TermsTask} (h : task.start t = some p) : p.Checked := by
  have hrevisar : ∀ {condicion}, revisar condicion = .ok () → revisarCondicion condicion = [] := fun h =>
    not_not.mp (failIf_eq_ok.mp h)
  cases task with
  | create input user =>
    simp only [TermsTask.start] at h
    split at h
    next hbegin =>
      obtain rfl := Option.some.inj h
      obtain ⟨_, -, hcheck⟩ := bind_eq_ok.mp hbegin.2
      exact hrevisar hcheck
    next => cases h
  | update id input user =>
    simp only [TermsTask.start] at h
    split at h
    next =>
      obtain ⟨read, hread, rfl⟩ := Option.map_eq_some_iff.mp h
      obtain ⟨row, hrow, hread⟩ := bind_eq_ok.mp (toOption_eq_some.mp hread)
      obtain ⟨_, hcheck, hread⟩ := bind_eq_ok.mp hread
      obtain rfl := pure_eq_ok.mp hread
      exact hrevisar hcheck
    next => cases h

/-- **A write of what was checked** keeps the rows executable. -/
theorem Executable.next (h : Executable t) (hchecked : p.Checked) (hok : WritesWhatItChecked p t) : Executable (p.next t) := by
  unfold TermsPoint.next
  split
  case h_2 => exact h
  next t' hwrite =>
    rcases write_cases hwrite with ⟨input, rfl, -, rfl⟩ | ⟨read, input, rfl, ⟨-, rfl⟩ | ⟨current, hmem, hid, -, rfl⟩⟩
    · intro row hrow
      rcases (Table.mem_create fun _ => rfl).mp hrow with hrow | rfl
      · exact h row hrow
      · rw [condicion_newTerms hok]
        exact hchecked
    · exact h
    · obtain ⟨hfound, hpercent⟩ := hok
      obtain rfl : current = read := Table.eq_of_key_eq hmem (Table.find?_eq_some.mp hfound).1 hid
      refine Table.forall_mem_put (fun x hx _ => h x hx) ?_
      rw [condicion_writePatch hpercent]
      exact hchecked

end Kept

/-! ## Runs -/

section Runs

variable {S : Sessions (Table SupplierPaymentTerms) TermsPoint}

theorem terms_promises : termsWorkers.Promises (fun _ => True) (fun _ _ => True) TermsKept fun _ _ => True where
  start _ _ _ := trivial
  next _ hS _ _ hnext := by
    obtain ⟨rfl, rfl⟩ := Prod.mk.inj (Option.some.inj hnext)
    exact ⟨hS.store.next, fun _ hp => by cases hp⟩
  stable _ _ _ _ _ _ _ := trivial
  outside {_ event} _ _ _ _ := event.elim

theorem executable_promises : termsWorkers.Promises (fun _ => True) (Workers.GoesWhere WritesWhatItChecked) Executable
    fun p _ => p.Checked where
  start _ _ hstart := checked_of_start hstart
  next _ hS hfind hok hnext := by
    obtain ⟨rfl, rfl⟩ := Prod.mk.inj (Option.some.inj hnext)
    exact ⟨hS.store.next (hS.at hfind) (hok _ hfind), fun _ hp => by cases hp⟩
  stable _ hS _ _ _ x hx := hS.worker x (Sessions.mem_others.mp hx).1
  outside {_ event} _ _ _ _ := event.elim

theorem termsKept_of_reachable (h : termsMachine.Reachable (fun _ _ => True) S) : TermsKept S.committed := by
  refine (Workers.keeps terms_promises (fun s hs => ?_) (fun _ _ => trivial) h).store
  subst hs
  exact ⟨fun row hrow => absurd hrow (Table.not_mem_empty row), fun a ha => absurd ha (Table.not_mem_empty a),
    fun a ha => absurd ha (Table.not_mem_empty a)⟩

/-- **Stored terms**: in every run a supplier has one active row in a currency, and in those that write what was checked
every row can be executed. -/
theorem payment_terms_executable :
    (termsMachine.Reachable (fun _ _ => True) S → ∀ a ∈ S.committed, ∀ b ∈ S.committed, a.status = .activa →
      b.status = .activa → a.legalEntityId = b.legalEntityId → a.supplierBpId = b.supplierBpId →
        a.currencyCode = b.currencyCode → a = b) ∧
    (termsMachine.Reachable (Workers.GoesWhere WritesWhatItChecked) S →
      ∀ row ∈ S.committed, revisarCondicion row.condicion = []) := by
  constructor
  · intro h a ha b hb hactive hactive' hentity hsupplier hcurrency
    refine (termsKept_of_reachable h).active a ha b hb (a.legalEntityId, a.supplierBpId, a.currencyCode) ?_ ?_
    · simp [activeTerms, hactive]
    · simp [activeTerms, hactive', hentity, hsupplier, hcurrency]
  · intro h
    refine (Workers.keeps executable_promises (fun s hs => ?_) (fun _ _ => trivial) h).store
    subst hs
    exact fun row hrow => absurd hrow (Table.not_mem_empty row)

end Runs

/-! ## A check and a transfer -/

/-- Active terms of a supplier, with an account. -/
def smallTerms (modality : ModalidadDePago) (termDays : Int) (advance : Nat) : CreateSupplierPaymentTermsDto where
  legalEntityId := 1
  supplierBpId := 1
  code := ['A']
  currencyCode := "BOB"
  modality
  computationBase := .fechaRecepcion
  termDays
  paymentMethod := .cheque
  bpBankAccountId := some 1
  advancePercentage := Double.cents advance
  status := .activa
  validFrom := 20700
  validTo := none

/-- A renegotiation of the instrument and the account. -/
def renegotiation (paymentMethod : Option MedioDePago) (bpBankAccountId : Option (Option Nat)) : UpdateSupplierPaymentTermsDto :=
  ⟨none, none, none, paymentMethod, bpBankAccountId, none, none, none, none⟩

def treasurer : AuthUser := ⟨1, true, []⟩

/-- Terms are agreed, and paid by transfer later. -/
def agreed : List (WorkerAct TermsTask Unit Empty) :=
  [.start 1 (.create (smallTerms .credito 30 0) treasurer), .go 1 (), .start 2 (.update 1 (renegotiation (some .transferencia) none) treasurer),
    .go 2 ()]

/-- Meanwhile another renegotiation takes the account away. -/
def crossedTerms : List (WorkerAct TermsTask Unit Empty) :=
  [.start 1 (.create (smallTerms .credito 30 0) treasurer), .go 1 (), .start 2 (.update 1 (renegotiation (some .transferencia) none) treasurer),
    .start 3 (.update 1 (renegotiation none (some none)) treasurer), .go 2 (), .go 3 ()]

/-- A transfer with an account can be executed; two renegotiations that cross leave one without. -/
theorem payment_terms_executable_agreed :
    (∀ row ∈ (termsMachine.afterIf (Workers.GoesWhere WritesWhatItChecked) ⟨Table.empty, []⟩ agreed).committed,
        revisarCondicion row.condicion = []) ∧
      (termsMachine.afterIf (Workers.GoesWhere WritesWhatItChecked) ⟨Table.empty, []⟩ agreed).committed.rows.map (·.paymentMethod) =
        [.transferencia] ∧
      ∃ row ∈ (termsMachine.after ⟨Table.empty, []⟩ crossedTerms).committed, revisarCondicion row.condicion ≠ [] := by
  refine ⟨?_, by decide +kernel, by decide +kernel⟩
  exact payment_terms_executable.2 (termsMachine.reachable_afterIf _ ⟨rfl, rfl⟩ _)

end AtlasErp
