import AtlasErp.Billing.BillingCycle
import AtlasErp.Billing.IssuedLines
import AtlasErp.Billing.PaymentSessions
import AtlasErp.Lib.Workers

/-! # Charges, issues, runs and payments side by side

Receivables are created, invoices are issued by hand and by the monthly runs of several instances, and payments are
registered, all of them statement by statement.  An issue locks its receivables one after the other, in any order, and
checks what it locked; a run lists the charges of its cycle without a lock, and issues each of its batches.

- `chargeWorkers`, `chargeMachine`: the statements, with failures at any of them;
- `leads_issuing`, `ejecutar_alone`: alone, an issue and a run do what `issueInvoice` and `ejecutar` say;
- `relies_of_reachable`: what a transaction locked is as it read it;
- `chargeCase_of_step`: all that a step can write;
- `ChargeCase.invariant`: what each of these writes keeps, every run keeps. -/

namespace AtlasErp

open Lib

/-! ## The store -/

/-- An invoice that was issued, with the rows it locked.  No statement reads it. -/
structure Issue where
  invoiceId : Nat
  receivables : List MerchantReceivable
  deriving DecidableEq

def Issue.ids (issue : Issue) : List Nat := issue.receivables.map (·.id)

/-- The tables of a cycle; `issues` is what was issued so far. -/
structure ChargeDb where
  billing : BillingDb
  runs : Table MerchantBillingRun
  issues : List Issue
  deriving DecidableEq

/-- Nothing was charged yet. -/
structure ChargeDb.Blank (s : ChargeDb) : Prop where
  receivables : s.billing.receivables = .empty
  invoices : s.billing.invoices = .empty
  invoiceLines : s.billing.invoiceLines = .empty
  payments : s.billing.payments = .empty
  allocations : s.billing.allocations = .empty
  runs : s.runs = .empty
  issues : s.issues = []

/-! ## The statements -/

/-- A run that bills its batches. -/
structure CorridaEnCurso where
  runId : Nat
  hoy : Day
  accountsConsidered : Nat
  facturas : List FacturaDeCorrida
  errores : List ErrorDeCorrida
  tandas : List Tanda
  deriving DecidableEq

/-- The row of a run that ends. -/
def CorridaEnCurso.close (corrida : CorridaEnCurso) (run : MerchantBillingRun) : MerchantBillingRun :=
  { run with
    status := estadoFinal corrida.facturas corrida.errores
    accountsConsidered := corrida.accountsConsidered
    invoices := corrida.facturas
    errors := corrida.errores }

/-- A call of `issueInvoice`, and the run it belongs to, if any, with its batch. -/
structure IssueCall where
  input : IssueInvoiceDto
  corrida : Option (Tanda × CorridaEnCurso)
  deriving DecidableEq

/-- How far an issue got. -/
inductive IssueStage where
  /-- `prepararEmisionFiscal`: nothing is locked yet. -/
  | preparing
  /-- `SELECT … FOR UPDATE` locks the rows it found, one after the other. -/
  | locking (rows : List MerchantReceivable) (todo : List Nat)
  /-- The rows passed the checks; number, invoice, lines and fiscal document follow. -/
  | locked (rows : List MerchantReceivable)
  deriving DecidableEq

inductive ChargePoint where
  | paying (p : PaymentPoint)
  | issuing (call : IssueCall) (stage : IssueStage)
  /-- A run is about to claim its cycle. -/
  | claiming (opciones : OpcionesCorrida)
  /-- It claimed it, and is about to list the charges. -/
  | listing (runId : Nat) (hoy : Day)
  | emitting (corrida : CorridaEnCurso)

inductive ChargeTask where
  | issueInvoice (input : IssueInvoiceDto)
  | registerMerchantPayment (input : RegisterMerchantPaymentDto)
  | ejecutar (opciones : OpcionesCorrida)
  deriving DecidableEq

/-- What a statement gets from the rest of the system: the order in which rows are found, the surroundings of an
issue, or an error. -/
structure ChargeAnswer where
  order : List Nat
  context : IssueContext
  error : Option HttpError

namespace IssueCall

/-- After the commit: a run goes on with its next batch. -/
def succeeded (call : IssueCall) (invoice : MerchantInvoice) : Option ChargePoint :=
  call.corrida.map fun x => .emitting
    { x.2 with facturas := x.2.facturas ++ [⟨invoice.id, invoice.invoiceNumber, x.1.accountId⟩] }

/-- After a failure: a run notes it and goes on. -/
def failed (call : IssueCall) (e : HttpError) : Option ChargePoint :=
  call.corrida.map fun x => .emitting { x.2 with errores := x.2.errores ++ [errorDeTanda x.1 e] }

end IssueCall

namespace ChargePoint

variable (issuedAt : Nat → Instant) (MERCHANT_BILLING_DUE_DAYS : Int)

/-- The rows a transaction locked. -/
def holds : ChargePoint → List BillingLock
  | .paying p => p.locks
  | .issuing _ (.locking rows _) | .issuing _ (.locked rows) => rows.map fun r => .receivable r.id
  | _ => []

/-- The next statement of a payment. -/
def nextPaying (p : PaymentPoint) (s : ChargeDb) : ChargeDb × Option ChargePoint :=
  match p.next (p.writes s.billing) with
  | .goto p' => (s, some (.paying p'))
  | .commit => ({ s with billing := p.writes s.billing }, none)
  | .rollback => (s, none)

/-- The next statement of an issue. -/
def nextIssuing (call : IssueCall) (answer : ChargeAnswer) (s : ChargeDb) :
    IssueStage → Option (ChargeDb × Option ChargePoint)
  | .preparing =>
    if answer.order.Perm ((issueRows s.billing call.input).map (·.id)) then
      some (s, some (.issuing call (.locking [] answer.order)))
    else none
  | .locking rows (id :: todo) =>
    -- a row that had to be waited for is read again, and dropped when it does not match any more
    match s.billing.receivables.findBy fun r => r.id = id ∧ r.accountId = call.input.accountId with
    | some r => some (s, some (.issuing call (.locking (rows ++ [r]) todo)))
    | none => some (s, some (.issuing call (.locking rows todo)))
  | .locking rows [] =>
    match checkIssue call.input rows with
    | .ok () => some (s, some (.issuing call (.locked rows)))
    | .error e => some (s, call.failed e)
  | .locked rows =>
    match issueLocked s.billing call.input answer.context rows with
    | .ok (invoice, billing) =>
      some ({ s with billing, issues := s.issues ++ [⟨invoice.id, rows⟩] }, call.succeeded invoice)
    | .error e => some (s, call.failed e)

/-- `INSERT … ON CONFLICT (cycle_key) DO NOTHING`: a cycle that is claimed is not run again. -/
def nextClaiming (opciones : OpcionesCorrida) (s : ChargeDb) : ChargeDb × Option ChargePoint :=
  let hoy := hoyLocal opciones.ahora
  let cycleKey := claveDelCicloCerrado hoy
  if (s.runs.findBy (·.cycleKey = cycleKey)).isSome then (s, none)
  else
    ({ s with runs := s.runs.create fun id =>
        ⟨id, cycleKey, hoy, opciones.trigger, opciones.requestedBy, .running, 0, [], []⟩ },
      some (.listing s.runs.nextKey hoy))

/-- The charges of the cycle, in batches. -/
def nextListing (runId : Nat) (hoy : Day) (s : ChargeDb) : ChargePoint :=
  let tandas := tandasDelCiclo (cargosDelCiclo issuedAt s.billing hoy)
  .emitting ⟨runId, hoy, ((tandas.map (·.accountId)).dedup).length, [], [], tandas⟩

/-- The next batch of a run, or its end. -/
def nextEmitting (corrida : CorridaEnCurso) (s : ChargeDb) : ChargeDb × Option ChargePoint :=
  match corrida.tandas with
  | tanda :: tandas =>
    (s, some (.issuing ⟨tanda.input MERCHANT_BILLING_DUE_DAYS corrida.hoy, some (tanda, { corrida with tandas })⟩
      .preparing))
  | [] =>
    ({ s with runs := s.runs.updateWhere (·.id = corrida.runId) corrida.close }, none)

/-- The next statement.  One that fails ends its transaction; a run only goes on when the failure is of a batch. -/
def next (p : ChargePoint) (answer : ChargeAnswer) (s : ChargeDb) : Option (ChargeDb × Option ChargePoint) :=
  match answer.error with
  | some e =>
    match p with
    | .issuing call _ => some (s, call.failed e)
    | _ => some (s, none)
  | none =>
    match p with
    | .paying p => some (nextPaying p s)
    | .issuing call stage => nextIssuing call answer s stage
    | .claiming opciones => some (nextClaiming opciones s)
    | .listing runId hoy => some (s, some (nextListing issuedAt runId hoy s))
    | .emitting corrida => some (nextEmitting MERCHANT_BILLING_DUE_DAYS corrida s)

end ChargePoint

section Machine

variable (issuedAt : Nat → Instant) (MERCHANT_BILLING_DUE_DAYS : Int)

/-- Issues, payments and runs; charges are created beside them. -/
def chargeWorkers : Workers ChargeDb ChargeTask ChargeAnswer ChargeDto BillingLock ChargePoint where
  start task _ :=
    match task with
    | .issueInvoice input => some (.issuing ⟨input, none⟩ .preparing)
    | .registerMerchantPayment input => some (.paying (.begin input))
    | .ejecutar opciones => some (.claiming opciones)
  holds := ChargePoint.holds
  next := ChargePoint.next issuedAt MERCHANT_BILLING_DUE_DAYS
  outside input s := (chargeReceivable s.billing input).toOption.map fun x => { s with billing := x.2 }

abbrev ChargeAct := WorkerAct ChargeTask ChargeAnswer ChargeDto

/-- Any interleaving, from the first charge on. -/
def chargeMachine : Machine (Sessions ChargeDb ChargePoint) ChargeAct :=
  (chargeWorkers issuedAt MERCHANT_BILLING_DUE_DAYS).machine ChargeDb.Blank

end Machine

/-! ## Alone

A call that nobody disturbs does what `issueInvoice` and `ejecutar` say. -/

/-- What a run that is done with its batches did. -/
def CorridaEnCurso.after (corrida : CorridaEnCurso) (p : ProgresoCorrida) : CorridaEnCurso :=
  { corrida with tandas := [], facturas := p.facturas, errores := p.errores }

section Alone

variable {issuedAt : Nat → Instant} {MERCHANT_BILLING_DUE_DAYS : Int} {s s' s'' : ChargeDb} {w : Nat} {call : IssueCall}
  {p : ChargePoint} {q q' : Option ChargePoint} {answer : ChargeAnswer}

/-- One transaction and nobody else. -/
def ChargeDb.only (s : ChargeDb) (w : Nat) (q : Option ChargePoint) : Sessions ChargeDb ChargePoint :=
  ⟨s, q.toList.map fun p => (w, p)⟩

theorem step_only (h : p.next issuedAt MERCHANT_BILLING_DUE_DAYS answer s = some (s', q)) :
    (chargeMachine issuedAt MERCHANT_BILLING_DUE_DAYS).step (s.only w (some p)) (.go w answer) = some (s'.only w q) := by
  have hfind : (s.only w (some p)).find? w = some p := by simp [ChargeDb.only, Sessions.find?]
  have hothers : (s.only w (some p)).others w = [] := by simp [ChargeDb.only, Sessions.others]
  have hnext : (chargeWorkers issuedAt MERCHANT_BILLING_DUE_DAYS).next p answer (s.only w (some p)).committed =
      some (s', q) := h
  change (chargeWorkers issuedAt MERCHANT_BILLING_DUE_DAYS).step (s.only w (some p)) (.go w answer) = _
  simp only [Workers.step, hfind, hnext]
  cases q with
  | none =>
    rw [hothers]
    rfl
  | some q =>
    have hfree : (chargeWorkers issuedAt MERCHANT_BILLING_DUE_DAYS).free (s.only w (some p)) w q = true := by
      simp [Workers.free, hothers]
    simp only [hfree, if_true, hothers]
    rfl

/-- From one point to another, alone. -/
def Leads (issuedAt : Nat → Instant) (MERCHANT_BILLING_DUE_DAYS : Int) (w : Nat) (s : ChargeDb) (q : Option ChargePoint)
    (s' : ChargeDb) (q' : Option ChargePoint) : Prop :=
  ∃ as, (chargeMachine issuedAt MERCHANT_BILLING_DUE_DAYS).Run (fun _ _ => True) (s.only w q) as (s'.only w q')

theorem Leads.refl (q : Option ChargePoint) : Leads issuedAt MERCHANT_BILLING_DUE_DAYS w s q s q := ⟨[], .nil _⟩

theorem Leads.step (h : p.next issuedAt MERCHANT_BILLING_DUE_DAYS answer s = some (s', q))
    (hrest : Leads issuedAt MERCHANT_BILLING_DUE_DAYS w s' q s'' q') :
    Leads issuedAt MERCHANT_BILLING_DUE_DAYS w s (some p) s'' q' := by
  obtain ⟨as, hrun⟩ := hrest
  exact ⟨_, .cons trivial (step_only h) hrun⟩

theorem Leads.snoc (h : Leads issuedAt MERCHANT_BILLING_DUE_DAYS w s q s' (some p))
    (hnext : p.next issuedAt MERCHANT_BILLING_DUE_DAYS answer s' = some (s'', q')) :
    Leads issuedAt MERCHANT_BILLING_DUE_DAYS w s q s'' q' := by
  obtain ⟨as, hrun⟩ := h
  exact ⟨_, hrun.snoc trivial (step_only hnext)⟩

/-- The rows are locked one after the other. -/
theorem leads_locking (context : IssueContext) {rest : List MerchantReceivable}
    (hrest : ∀ r ∈ rest, r ∈ s.billing.receivables ∧ r.accountId = call.input.accountId)
    (rows : List MerchantReceivable)
    (h : Leads issuedAt MERCHANT_BILLING_DUE_DAYS w s (some (.issuing call (.locking (rows ++ rest) []))) s' q) :
    Leads issuedAt MERCHANT_BILLING_DUE_DAYS w s (some (.issuing call (.locking rows (rest.map (·.id))))) s' q := by
  induction rest generalizing rows with
  | nil => simpa using h
  | cons r rest ih =>
    obtain ⟨hr, haccount⟩ := hrest r List.mem_cons_self
    have hfind : s.billing.receivables.findBy (fun x => x.id = r.id ∧ x.accountId = call.input.accountId) = some r := by
      refine Table.findBy_unique hr (decide_eq_true ⟨rfl, haccount⟩) fun x hx hwhere => ?_
      exact (of_decide_eq_true hwhere).1
    have hgo : ChargePoint.next issuedAt MERCHANT_BILLING_DUE_DAYS
        (.issuing call (.locking rows ((r :: rest).map (·.id)))) ⟨[], context, none⟩ s =
          some (s, some (.issuing call (.locking (rows ++ [r]) (rest.map (·.id))))) := by
      simp only [ChargePoint.next, ChargePoint.nextIssuing, List.map_cons, hfind]
    exact .step hgo (ih (fun x hx => hrest x (List.mem_cons_of_mem r hx)) (rows ++ [r]) (by simpa using h))

/-- **An issue that nobody disturbs** commits what `issueInvoice` leaves, and fails when it fails. -/
theorem leads_issuing (context : IssueContext)
    (hok : ∀ invoice billing, issueInvoice s.billing call.input context = .ok (invoice, billing) →
      Leads issuedAt MERCHANT_BILLING_DUE_DAYS w
        { s with billing, issues := s.issues ++ [⟨invoice.id, issueRows s.billing call.input⟩] }
        (call.succeeded invoice) s' q)
    (herror : ∀ e, issueInvoice s.billing call.input context = .error e →
      Leads issuedAt MERCHANT_BILLING_DUE_DAYS w s (call.failed e) s' q) :
    Leads issuedAt MERCHANT_BILLING_DUE_DAYS w s (some (.issuing call .preparing)) s' q := by
  have hrows : ∀ r ∈ issueRows s.billing call.input, r ∈ s.billing.receivables ∧ r.accountId = call.input.accountId := by
    intro r hr
    obtain ⟨hmem, hwhere⟩ := Table.mem_rowsWhere.mp hr
    exact ⟨hmem, (of_decide_eq_true hwhere).2⟩
  have hfound : ChargePoint.next issuedAt MERCHANT_BILLING_DUE_DAYS (.issuing call .preparing)
      ⟨(issueRows s.billing call.input).map (·.id), context, none⟩ s =
        some (s, some (.issuing call (.locking [] ((issueRows s.billing call.input).map (·.id))))) := by
    simp only [ChargePoint.next, ChargePoint.nextIssuing, List.Perm.refl, if_true]
  refine .step hfound (leads_locking context hrows [] ?_)
  rw [List.nil_append]
  rw [issueInvoice_eq] at hok herror
  cases hcheck : checkIssue call.input (issueRows s.billing call.input) with
  | error e =>
    have hgo : ChargePoint.next issuedAt MERCHANT_BILLING_DUE_DAYS
        (.issuing call (.locking (issueRows s.billing call.input) [])) ⟨[], context, none⟩ s =
          some (s, call.failed e) := by
      simp only [ChargePoint.next, ChargePoint.nextIssuing, hcheck]
    exact .step hgo (herror e (by rw [hcheck]; rfl))
  | ok result =>
    rw [hcheck] at hok herror
    have hgo : ChargePoint.next issuedAt MERCHANT_BILLING_DUE_DAYS
        (.issuing call (.locking (issueRows s.billing call.input) [])) ⟨[], context, none⟩ s =
          some (s, some (.issuing call (.locked (issueRows s.billing call.input)))) := by
      simp only [ChargePoint.next, ChargePoint.nextIssuing, hcheck]
    refine .step hgo ?_
    cases hissue : issueLocked s.billing call.input context (issueRows s.billing call.input) with
    | error e =>
      have hend : ChargePoint.next issuedAt MERCHANT_BILLING_DUE_DAYS
          (.issuing call (.locked (issueRows s.billing call.input))) ⟨[], context, none⟩ s = some (s, call.failed e) := by
        simp only [ChargePoint.next, ChargePoint.nextIssuing, hissue]
      exact .step hend (herror e hissue)
    | ok result =>
      obtain ⟨invoice, billing⟩ := result
      have hend : ChargePoint.next issuedAt MERCHANT_BILLING_DUE_DAYS
          (.issuing call (.locked (issueRows s.billing call.input))) ⟨[], context, none⟩ s =
            some ({ s with billing, issues := s.issues ++ [⟨invoice.id, issueRows s.billing call.input⟩] },
              call.succeeded invoice) := by
        simp only [ChargePoint.next, ChargePoint.nextIssuing, hissue]
      exact .step hend (hok invoice billing hissue)

/-- The batches of a run, one after the other. -/
theorem leads_emitting {tandas : List (Tanda × IssueContext)} {corrida : CorridaEnCurso} {fin : ProgresoCorrida}
    (htandas : corrida.tandas = tandas.map (·.1))
    (hfin : tandas.foldl (emitirTanda MERCHANT_BILLING_DUE_DAYS corrida.hoy)
      ⟨s.billing, corrida.facturas, corrida.errores⟩ = fin) :
    ∃ issues, Leads issuedAt MERCHANT_BILLING_DUE_DAYS w s (some (.emitting corrida))
      { s with billing := fin.billing, issues } (some (.emitting (corrida.after fin))) := by
  induction tandas generalizing s corrida with
  | nil =>
    obtain rfl := hfin
    have hsame : corrida = { corrida with tandas := [] } := by
      rw [← show corrida.tandas = [] from htandas]
    refine ⟨s.issues, ?_⟩
    rw [List.foldl_nil, CorridaEnCurso.after]
    dsimp only
    rw [← hsame]
    exact .refl _
  | cons x tandas ih =>
    obtain ⟨tanda, context⟩ := x
    have hcons : corrida.tandas = tanda :: tandas.map (·.1) := htandas
    have hfirst : ChargePoint.next issuedAt MERCHANT_BILLING_DUE_DAYS (.emitting corrida) ⟨[], context, none⟩ s =
        some (s, some (.issuing ⟨tanda.input MERCHANT_BILLING_DUE_DAYS corrida.hoy,
          some (tanda, { corrida with tandas := tandas.map (·.1) })⟩ .preparing)) := by
      simp only [ChargePoint.next, ChargePoint.nextEmitting, hcons]
    rw [List.foldl_cons] at hfin
    cases hissue : issueInvoice s.billing (tanda.input MERCHANT_BILLING_DUE_DAYS corrida.hoy) context with
    | error e =>
      have hbatch : emitirTanda MERCHANT_BILLING_DUE_DAYS corrida.hoy ⟨s.billing, corrida.facturas, corrida.errores⟩
          (tanda, context) = ⟨s.billing, corrida.facturas, corrida.errores ++ [errorDeTanda tanda e]⟩ := by
        simp only [emitirTanda, hissue]
      rw [hbatch] at hfin
      obtain ⟨issues, hrest⟩ := @ih s { corrida with
        tandas := tandas.map (·.1), errores := corrida.errores ++ [errorDeTanda tanda e] } rfl hfin
      refine ⟨issues, .step hfirst (leads_issuing context (fun invoice billing hok => ?_) fun e' he' => ?_)⟩
      · rw [hissue] at hok
        cases hok
      · obtain rfl := Except.error.inj (hissue.symm.trans he')
        exact hrest
    | ok result =>
      obtain ⟨invoice, billing⟩ := result
      have hbatch : emitirTanda MERCHANT_BILLING_DUE_DAYS corrida.hoy ⟨s.billing, corrida.facturas, corrida.errores⟩
          (tanda, context) = ⟨billing, corrida.facturas ++ [⟨invoice.id, invoice.invoiceNumber, tanda.accountId⟩],
            corrida.errores⟩ := by
        simp only [emitirTanda, hissue]
      rw [hbatch] at hfin
      obtain ⟨issues, hrest⟩ := @ih { s with
          billing
          issues := s.issues ++
            [⟨invoice.id, issueRows s.billing (tanda.input MERCHANT_BILLING_DUE_DAYS corrida.hoy)⟩] }
        { corrida with
          tandas := tandas.map (·.1)
          facturas := corrida.facturas ++ [⟨invoice.id, invoice.invoiceNumber, tanda.accountId⟩] } rfl hfin
      refine ⟨issues, .step hfirst (leads_issuing context (fun invoice' billing' hok => ?_) fun e he => ?_)⟩
      · obtain ⟨rfl, rfl⟩ := Prod.mk.inj (Except.ok.inj (hissue.symm.trans hok))
        exact hrest
      · rw [hissue] at he
        cases he

/-- **A run that nobody disturbs** leaves the tables as `ejecutar` does. -/
theorem ejecutar_alone (contexts : Nat → IssueContext) (opciones : OpcionesCorrida) :
    ∃ s', Leads issuedAt MERCHANT_BILLING_DUE_DAYS w s (some (.claiming opciones)) s' none ∧
      (⟨s'.billing, s'.runs⟩ : CycleDb) =
        (ejecutar issuedAt MERCHANT_BILLING_DUE_DAYS contexts ⟨s.billing, s.runs⟩ opciones).1 := by
  generalize hhoy : hoyLocal opciones.ahora = hoy
  cases hclaimed : (s.runs.findBy (·.cycleKey = claveDelCicloCerrado hoy)).isSome with
  | true =>
    have hgo : ChargePoint.next issuedAt MERCHANT_BILLING_DUE_DAYS (.claiming opciones) ⟨[], contexts 0, none⟩ s =
        some (s, none) := by
      simp only [ChargePoint.next, ChargePoint.nextClaiming, hhoy, hclaimed, if_true]
    refine ⟨s, .step hgo (.refl none), ?_⟩
    simp only [ejecutar, hhoy, hclaimed, if_true]
  | false =>
    let claimed : ChargeDb := { s with runs := s.runs.create fun id =>
      ⟨id, claveDelCicloCerrado hoy, hoy, opciones.trigger, opciones.requestedBy, .running, 0, [], []⟩ }
    let tandas := tandasDelCiclo (cargosDelCiclo issuedAt s.billing hoy)
    let corrida : CorridaEnCurso := ⟨s.runs.nextKey, hoy, ((tandas.map (·.accountId)).dedup).length, [], [], tandas⟩
    let fin := (tandasDeCorrida issuedAt contexts s.billing hoy).foldl (emitirTanda MERCHANT_BILLING_DUE_DAYS hoy)
      ⟨s.billing, [], []⟩
    let closed := claimed.runs.updateWhere (·.id = s.runs.nextKey) (corrida.after fin).close
    have hclaim : ChargePoint.next issuedAt MERCHANT_BILLING_DUE_DAYS (.claiming opciones) ⟨[], contexts 0, none⟩ s =
        some (claimed, some (.listing s.runs.nextKey hoy)) := by
      simp only [ChargePoint.next, ChargePoint.nextClaiming, hhoy, hclaimed, Bool.false_eq_true, if_false, claimed]
    have hlist : ChargePoint.next issuedAt MERCHANT_BILLING_DUE_DAYS (.listing s.runs.nextKey hoy)
        ⟨[], contexts 0, none⟩ claimed = some (claimed, some (.emitting corrida)) := rfl
    obtain ⟨issues, hbatches⟩ := @leads_emitting issuedAt MERCHANT_BILLING_DUE_DAYS claimed w
      (tandasDeCorrida issuedAt contexts s.billing hoy) corrida fin
      (map_fst_tandasDeCorrida issuedAt contexts s.billing hoy).symm rfl
    have hend : ChargePoint.next issuedAt MERCHANT_BILLING_DUE_DAYS (.emitting (corrida.after fin))
        ⟨[], contexts 0, none⟩ { claimed with billing := fin.billing, issues } =
          some ({ billing := fin.billing, issues, runs := closed }, none) := rfl
    refine ⟨_, .step hclaim (.step hlist (hbatches.snoc hend)), ?_⟩
    have hold : ∀ run ∈ s.runs, decide (run.id = s.runs.nextKey) = false := fun run hrun =>
      decide_eq_false (Nat.ne_of_lt (Table.key_lt_nextKey hrun))
    have haccounts : tandas.map (·.accountId) =
        (tandasDeCorrida issuedAt contexts s.billing hoy).map (·.1.accountId) := by
      have hfst : (tandasDeCorrida issuedAt contexts s.billing hoy).map (·.1) = tandas := map_fst_tandasDeCorrida ..
      rw [← hfst, List.map_map]
      rfl
    have hruns := @Table.updateWhere_create _ _ s.runs (·.id = s.runs.nextKey) (corrida.after fin).close (fun _ => rfl)
      (fun id => ⟨id, claveDelCicloCerrado hoy, hoy, opciones.trigger, opciones.requestedBy, .running, 0, [], []⟩)
      (fun id => ⟨id, claveDelCicloCerrado hoy, hoy, opciones.trigger, opciones.requestedBy,
        estadoFinal fin.facturas fin.errores, ((tandas.map (·.accountId)).dedup).length, fin.facturas, fin.errores⟩)
      (fun _ => rfl) (fun _ => rfl) hold (decide_eq_true rfl) rfl
    simp only [ejecutar, hhoy, hclaimed, Bool.false_eq_true, if_false]
    rw [← haccounts]
    exact congrArg (CycleDb.mk fin.billing) hruns

end Alone

/-! ## What a payment allocates -/

/-- The allocations of a payment so far, with those to come, are those it was asked for. -/
structure PaymentProgress.Faithful (q : PaymentProgress) (todo : List AllocationDto) : Prop where
  checked : checkPayment q.input = .ok q.amount
  amounts : q.applied.map (·.2) ++ todo.map (·.amountApplied) = q.input.allocations.map (·.amountApplied)
  currency : ∀ x ∈ q.applied, currencyCode x.1.currency = q.input.currency

def PaymentPoint.Faithful : PaymentPoint → Prop
  | .begin _ => True
  | .allocating q todo => q.Faithful todo
  | .refreshing q _ | .deciding q _ _ _ | .updating q _ _ _ => q.Faithful []

section Faithful

variable {db : BillingDb} {p p' : PaymentPoint}

/-- An allocation is made in the currency of the payment. -/
theorem currency_of_checkAllocation {input : RegisterMerchantPaymentDto} {receivable : MerchantReceivable}
    {allocation : AllocationDto} {applied : Int} (h : checkAllocation input receivable allocation = .ok applied) :
    currencyCode receivable.currency = input.currency := by
  unfold checkAllocation at h
  exact not_not.mp (failIf_bind_eq_ok.mp h).1

theorem PaymentPoint.faithful_of_next (hp : p.Faithful) (h : p.next db = .goto p') : p'.Faithful := by
  cases PaymentPoint.leads_of_next h with
  | checked hok => exact ⟨hok, rfl, fun _ h => absurd h List.not_mem_nil⟩
  | @allocated q allocation todo receivable applied =>
    obtain ⟨hchecked, hamounts, hcurrency⟩ := hp
    unfold PaymentPoint.next at h
    dsimp only at h
    cases hlock : lockReceivable q.input db allocation with
    | none => simp [hlock] at h
    | some row =>
      cases hcheck : checkAllocation q.input row allocation with
      | error e => simp [hlock, hcheck] at h
      | ok amount =>
        simp only [hlock, hcheck] at h
        have happlied := congrArg PaymentProgress.applied (PaymentPoint.allocating.inj (Next.goto.inj h)).1
        obtain ⟨rfl, rfl⟩ := Prod.mk.inj (List.singleton_inj.mp (List.append_cancel_left happlied))
        obtain ⟨rfl, -, -⟩ := checkAllocation_eq_ok hcheck
        refine ⟨hchecked, ?_, fun x hx => ?_⟩
        · rw [List.map_append, List.append_assoc]
          exact hamounts
        · rcases List.mem_append.mp hx with hx | hx
          · exact hcurrency x hx
          · obtain rfl := List.mem_singleton.mp hx
            exact currency_of_checkAllocation hcheck
  | allAllocated => exact hp
  | read => exact hp
  | skipped => exact ⟨hp.checked, hp.amounts, hp.currency⟩
  | decided => exact hp
  | updated => exact ⟨hp.checked, hp.amounts, hp.currency⟩

/-- What a payment allocated adds up to its amount. -/
theorem PaymentProgress.Faithful.sum_applied {q : PaymentProgress} (h : q.Faithful []) :
    (q.applied.map (·.2)).sum = q.amount := by
  have hchecked := h.checked
  unfold checkPayment at hchecked
  obtain ⟨matched, hmatch, hchecked⟩ := bind_eq_ok.mp hchecked
  obtain ⟨hyes, hamount⟩ := failIf_bind_eq_ok.mp hchecked
  obtain ⟨hsame, -⟩ := parseMoney_eq_ok (liftMoney_eq_ok.mp hamount)
  have hmatch := liftMoney_eq_ok.mp hmatch
  unfold allocationsMatchPayment at hmatch
  obtain ⟨payment, hpayment, hmatch⟩ := bind_eq_ok.mp hmatch
  obtain ⟨amounts, hamounts, hmatch⟩ := bind_eq_ok.mp hmatch
  obtain ⟨rfl, -⟩ := parseMoney_eq_ok hpayment
  obtain ⟨rfl, -⟩ := mapM_parseMoney_eq_ok hamounts
  have hsum : matched = true := by simpa using hyes
  obtain rfl := pure_eq_ok.mp hmatch
  have hall : q.applied.map (·.2) = q.input.allocations.map (·.amountApplied) := by simpa using h.amounts
  have htotal := of_decide_eq_true hsum
  rw [sumMinor_eq, List.map_map] at htotal
  rw [hall, hsame]
  exact htotal

end Faithful

/-! ## What a transaction relies on -/

/-- The rows an issue locked are as it read them, each of them once. -/
def IssueStage.Relies (db : BillingDb) : IssueStage → Prop
  | .preparing => True
  | .locking rows todo => (∀ r ∈ rows, r ∈ db.receivables) ∧ (rows.map (·.id) ++ todo).Nodup
  | .locked rows => Issuable db rows

def ChargePoint.Relies (s : ChargeDb) : ChargePoint → Prop
  | .paying p => p.reliesOn s.billing ∧ p.Faithful
  | .issuing _ stage => stage.Relies s.billing
  | _ => True

/-- All that a step can write. -/
inductive ChargeCase (s : ChargeDb) : ChargeDb → Prop where
  | kept {runs : Table MerchantBillingRun}
      (cycles : (s.runs.rows.map (·.cycleKey)).Nodup → (runs.rows.map (·.cycleKey)).Nodup) :
      ChargeCase s { s with runs }
  | charged {input : ChargeDto} (amount_nonneg : 0 ≤ input.amount) : ChargeCase s { s with
      billing := { s.billing with receivables := s.billing.receivables.create (newReceivable input) } }
  | paid {q : PaymentProgress} (applicable : Applicable s.billing.receivables q.applied) (faithful : q.Faithful []) :
      ChargeCase s { s with billing := q.writes s.billing }
  | issued {input : IssueInvoiceDto} {context : IssueContext} {rows : List MerchantReceivable}
      {invoice : MerchantInvoice} {billing : BillingDb} (issuable : Issuable s.billing rows)
      (ok : issueLocked s.billing input context rows = .ok (invoice, billing)) :
      ChargeCase s { s with billing, issues := s.issues ++ [⟨invoice.id, rows⟩] }

theorem ChargeCase.same (s : ChargeDb) : ChargeCase s s := @ChargeCase.kept s s.runs id

/-- What a statement does: to the tables, and where it leads; it writes what is locked, and nothing else. -/
structure ChargePoint.Spec (p : ChargePoint) (s s' : ChargeDb) (q : Option ChargePoint) : Prop where
  writes : ChargeCase s s'
  relies : ∀ p' ∈ q, p'.Relies s'
  guarded : ∀ k, k ∉ p.holds → k.keeps s.billing s'.billing

section Spec

variable {s s' : ChargeDb} {p : ChargePoint} {q : Option ChargePoint} {call : IssueCall} {answer : ChargeAnswer}
  {stage : IssueStage}

theorem BillingLock.keeps_refl (k : BillingLock) (db : BillingDb) : k.keeps db db := by
  cases k with
  | receivable id => exact fun _ _ => Iff.rfl
  | invoice id => trivial

theorem ChargePoint.Spec.same (hrelies : ∀ p' ∈ q, p'.Relies s) : p.Spec s s q :=
  ⟨.same s, hrelies, fun k _ => k.keeps_refl _⟩

theorem IssueCall.failed_relies (e : HttpError) (s : ChargeDb) : ∀ p' ∈ call.failed e, p'.Relies s := by
  intro p' hp'
  obtain ⟨x, -, rfl⟩ := Option.map_eq_some_iff.mp hp'
  trivial

theorem IssueCall.succeeded_relies (invoice : MerchantInvoice) (s : ChargeDb) :
    ∀ p' ∈ call.succeeded invoice, p'.Relies s := by
  intro p' hp'
  obtain ⟨x, -, rfl⟩ := Option.map_eq_some_iff.mp hp'
  trivial

theorem nextPaying_spec {p : PaymentPoint} (hp : ChargePoint.Relies s (.paying p)) :
    (ChargePoint.paying p).Spec s (ChargePoint.nextPaying p s).1 (ChargePoint.nextPaying p s).2 := by
  obtain ⟨hrelies, hfaithful⟩ := hp
  unfold ChargePoint.nextPaying
  cases hnext : p.next (p.writes s.billing) with
  | goto p' =>
    refine .same fun p'' hp'' => ?_
    obtain rfl := Option.some.inj hp''
    exact ⟨PaymentPoint.reliesOn_of_leads hrelies (PaymentPoint.leads_of_next hnext),
      PaymentPoint.faithful_of_next hfaithful hnext⟩
  | commit =>
    obtain ⟨progress, rfl⟩ := PaymentPoint.refreshing_of_commit hnext
    exact ⟨.paid hrelies.1 hfaithful, fun p' hp' => absurd hp' (Option.not_mem_none p'),
      fun k hk => PaymentPoint.not_named hk s.billing⟩
  | rollback => exact .same fun p' hp' => absurd hp' (Option.not_mem_none p')

/-- The charges that pass the checks can be billed. -/
theorem issuable_of_locked {db : BillingDb} {input : IssueInvoiceDto} {rows : List MerchantReceivable}
    (hmem : ∀ r ∈ rows, r ∈ db.receivables) (hnodup : (rows.map (·.id)).Nodup)
    (h : checkIssue input rows = .ok ()) : Issuable db rows := by
  unfold checkIssue at h
  obtain ⟨-, h⟩ := failIf_bind_eq_ok.mp h
  obtain ⟨hfree, h⟩ := failIf_bind_eq_ok.mp h
  obtain ⟨hpending, h⟩ := failIf_bind_eq_ok.mp h
  have hopen := failIf_eq_ok.mp h
  simp only [List.any_eq_true, not_exists, not_and, decide_eq_true_eq, not_not, not_le] at hfree hpending hopen
  exact ⟨hmem, hnodup, hfree, hpending, hopen⟩

theorem nextIssuing_spec (hp : stage.Relies s.billing)
    (h : ChargePoint.nextIssuing call answer s stage = some (s', q)) :
    (ChargePoint.issuing call stage).Spec s s' q := by
  cases stage with
  | preparing =>
    unfold ChargePoint.nextIssuing at h
    dsimp only at h
    split at h
    · rename_i hperm
      obtain ⟨rfl, rfl⟩ := Prod.mk.inj (Option.some.inj h)
      refine .same fun p' hp' => ?_
      obtain rfl := Option.some.inj hp'
      have hrows : ((issueRows s.billing call.input).map (·.id)).Nodup :=
        s.billing.receivables.nodup.sublist (List.filter_sublist.map _)
      exact ⟨fun _ h => absurd h List.not_mem_nil, hperm.symm.nodup hrows⟩
    · cases h
  | locking rows todo =>
    obtain ⟨hmem, hnodup⟩ := hp
    cases todo with
    | nil =>
      unfold ChargePoint.nextIssuing at h
      dsimp only at h
      cases hcheck : checkIssue call.input rows with
      | error e =>
        rw [hcheck] at h
        obtain ⟨rfl, rfl⟩ := Prod.mk.inj (Option.some.inj h)
        exact .same (call.failed_relies e s)
      | ok result =>
        rw [hcheck] at h
        obtain ⟨rfl, rfl⟩ := Prod.mk.inj (Option.some.inj h)
        refine .same fun p' hp' => ?_
        obtain rfl := Option.some.inj hp'
        exact issuable_of_locked hmem (by simpa using hnodup) hcheck
    | cons id todo =>
      unfold ChargePoint.nextIssuing at h
      dsimp only at h
      cases hfind : s.billing.receivables.findBy fun r => r.id = id ∧ r.accountId = call.input.accountId with
      | none =>
        rw [hfind] at h
        obtain ⟨rfl, rfl⟩ := Prod.mk.inj (Option.some.inj h)
        refine .same fun p' hp' => ?_
        obtain rfl := Option.some.inj hp'
        exact ⟨hmem, hnodup.sublist ((List.sublist_cons_self id todo).append_left _)⟩
      | some r =>
        rw [hfind] at h
        obtain ⟨rfl, rfl⟩ := Prod.mk.inj (Option.some.inj h)
        refine .same fun p' hp' => ?_
        obtain rfl := Option.some.inj hp'
        obtain ⟨hr, hwhere⟩ := Table.findBy_eq_some hfind
        obtain ⟨rfl, -⟩ := of_decide_eq_true hwhere
        refine ⟨fun x hx => ?_, ?_⟩
        · rcases List.mem_append.mp hx with hx | hx
          · exact hmem x hx
          · exact List.mem_singleton.mp hx ▸ hr
        · rw [List.map_append, List.append_assoc]
          exact hnodup
  | locked rows =>
    have hissuable : Issuable s.billing rows := hp
    unfold ChargePoint.nextIssuing at h
    dsimp only at h
    cases hok : issueLocked s.billing call.input answer.context rows with
    | error e =>
      rw [hok] at h
      obtain ⟨rfl, rfl⟩ := Prod.mk.inj (Option.some.inj h)
      exact .same (call.failed_relies e s)
    | ok result =>
      obtain ⟨invoice, billing⟩ := result
      rw [hok] at h
      obtain ⟨rfl, rfl⟩ := Prod.mk.inj (Option.some.inj h)
      obtain ⟨heffect, -⟩ := issueLocked_effect hissuable hok
      refine ⟨.issued hissuable hok, call.succeeded_relies invoice _, fun k hk => ?_⟩
      cases k with
      | invoice => trivial
      | receivable id =>
        rintro x rfl
        have hother : ∀ r ∈ rows, x.id ≠ r.id := fun r hr heq =>
          hk (List.mem_map.mpr ⟨r, hr, congrArg BillingLock.receivable heq.symm⟩)
        rw [heffect.mem_receivables]
        refine ⟨fun hx => .inr ⟨hx, hother⟩, fun hx => ?_⟩
        rcases hx with ⟨r, hr, rfl⟩ | ⟨hx, -⟩
        · exact absurd rfl (hother r hr)
        · exact hx

theorem nextClaiming_spec (opciones : OpcionesCorrida) (s : ChargeDb) : (ChargePoint.claiming opciones).Spec s
    (ChargePoint.nextClaiming opciones s).1 (ChargePoint.nextClaiming opciones s).2 := by
  unfold ChargePoint.nextClaiming
  dsimp only
  split
  · exact .same fun p' hp' => absurd hp' (Option.not_mem_none p')
  · rename_i hnone
    refine ⟨.kept fun hnodup => ?_, fun p' hp' => ?_, fun k _ => k.keeps_refl _⟩
    · have hnew : ∀ run ∈ s.runs, run.cycleKey ≠ claveDelCicloCerrado (hoyLocal opciones.ahora) := by
        simpa [Table.findBy_isSome] using hnone
      have hrows := @Table.rows_create _ _ s.runs (fun id => ⟨id, claveDelCicloCerrado (hoyLocal opciones.ahora),
        hoyLocal opciones.ahora, opciones.trigger, opciones.requestedBy, .running, 0, [], []⟩) fun _ => rfl
      rw [hrows, List.map_append, List.map_singleton]
      refine hnodup.append (List.nodup_singleton _) fun key hkey hin => ?_
      obtain ⟨run, hrun, rfl⟩ := List.mem_map.mp hkey
      exact hnew run hrun (List.mem_singleton.mp hin)
    · obtain rfl := Option.some.inj hp'
      trivial

theorem nextEmitting_spec {MERCHANT_BILLING_DUE_DAYS : Int} (corrida : CorridaEnCurso) (s : ChargeDb) :
    (ChargePoint.emitting corrida).Spec s (ChargePoint.nextEmitting MERCHANT_BILLING_DUE_DAYS corrida s).1
      (ChargePoint.nextEmitting MERCHANT_BILLING_DUE_DAYS corrida s).2 := by
  unfold ChargePoint.nextEmitting
  split
  · refine .same fun p' hp' => ?_
    obtain rfl := Option.some.inj hp'
    trivial
  · refine ⟨.kept fun hnodup => ?_, fun p' hp' => absurd hp' (Option.not_mem_none p'), fun k _ => k.keeps_refl _⟩
    have hkeys : ∀ run ∈ s.runs.rows, (if decide (run.id = corrida.runId) then corrida.close run else run).cycleKey =
        run.cycleKey := fun run _ => by split <;> rfl
    rw [@Table.rows_updateWhere _ _ s.runs (·.id = corrida.runId) corrida.close fun _ => rfl, List.map_map]
    exact (List.map_congr_left hkeys) ▸ hnodup

variable {issuedAt : Nat → Instant} {MERCHANT_BILLING_DUE_DAYS : Int}

/-- **What a statement does**, whatever it is. -/
theorem ChargePoint.next_spec (hp : p.Relies s)
    (h : p.next issuedAt MERCHANT_BILLING_DUE_DAYS answer s = some (s', q)) : p.Spec s s' q := by
  unfold ChargePoint.next at h
  cases herror : answer.error with
  | some e =>
    rw [herror] at h
    cases p with
    | issuing call stage =>
      obtain ⟨rfl, rfl⟩ := Prod.mk.inj (Option.some.inj h)
      exact .same (call.failed_relies e s)
    | _ =>
      obtain ⟨rfl, rfl⟩ := Prod.mk.inj (Option.some.inj h)
      exact .same fun p' hp' => absurd hp' (Option.not_mem_none p')
  | none =>
    rw [herror] at h
    cases p with
    | paying p =>
      obtain ⟨rfl, rfl⟩ := Prod.mk.inj (Option.some.inj h)
      exact nextPaying_spec hp
    | issuing call stage => exact nextIssuing_spec hp h
    | claiming opciones =>
      obtain ⟨rfl, rfl⟩ := Prod.mk.inj (Option.some.inj h)
      exact nextClaiming_spec opciones s
    | listing runId hoy =>
      obtain ⟨rfl, rfl⟩ := Prod.mk.inj (Option.some.inj h)
      refine .same fun p' hp' => ?_
      obtain rfl := Option.some.inj hp'
      trivial
    | emitting corrida =>
      obtain ⟨rfl, rfl⟩ := Prod.mk.inj (Option.some.inj h)
      exact nextEmitting_spec corrida s

end Spec

/-! ## In every run -/

section Runs

variable {issuedAt : Nat → Instant} {MERCHANT_BILLING_DUE_DAYS : Int} {ok : Sessions ChargeDb ChargePoint → ChargeAct → Prop}
  {S S' : Sessions ChargeDb ChargePoint} {s s' : ChargeDb} {p : ChargePoint}

/-- A row that is held is there. -/
theorem ChargePoint.exists_of_holds (hp : p.Relies s) {id : Nat} (hid : .receivable id ∈ p.holds) :
    ∃ r ∈ s.billing.receivables, r.id = id := by
  cases p with
  | paying p =>
    obtain ⟨⟨happlicable, -⟩, -⟩ := hp
    have hnamed : ∃ x ∈ p.applied, x.1.id = id := by
      cases p with
      | begin input => cases hid
      | _ =>
        rcases List.mem_append.mp hid with hid | hid
        · obtain ⟨x, hx, heq⟩ := List.mem_map.mp hid
          exact ⟨x, hx, BillingLock.receivable.inj heq⟩
        · obtain ⟨x, -, heq⟩ := List.mem_filterMap.mp hid
          obtain ⟨status, -, hlock⟩ := Option.map_eq_some_iff.mp heq
          cases hlock
    obtain ⟨x, hx, rfl⟩ := hnamed
    obtain ⟨r, hr, hrx, -⟩ := happlicable.home hx
    exact ⟨r, hr, hrx⟩
  | issuing call stage =>
    have hrow : ∀ {rows : List MerchantReceivable}, (∀ r ∈ rows, r ∈ s.billing.receivables) →
        BillingLock.receivable id ∈ rows.map (fun r => BillingLock.receivable r.id) →
          ∃ r ∈ s.billing.receivables, r.id = id := by
      intro rows hmem hin
      obtain ⟨r, hr, heq⟩ := List.mem_map.mp hin
      exact ⟨r, hmem r hr, BillingLock.receivable.inj heq⟩
    cases stage with
    | preparing => cases hid
    | locking rows todo => exact hrow hp.1 hid
    | locked rows => exact hrow (Issuable.mem hp) hid
  | _ => cases hid

/-- Only what is held is relied on. -/
theorem ChargePoint.relies_of_keeps (hkeeps : ∀ k ∈ p.holds, k.keeps s.billing s'.billing) (hp : p.Relies s) :
    p.Relies s' := by
  cases p with
  | paying p => exact ⟨PaymentPoint.reliesOn_of_keeps hkeeps hp.1, hp.2⟩
  | issuing call stage =>
    have hrow : ∀ {rows : List MerchantReceivable},
        (∀ k ∈ rows.map (fun r => BillingLock.receivable r.id), k.keeps s.billing s'.billing) →
          (∀ r ∈ rows, r ∈ s.billing.receivables) → ∀ r ∈ rows, r ∈ s'.billing.receivables := by
      intro rows hkeeps hmem r hr
      have hsame : (BillingLock.receivable r.id).keeps s.billing s'.billing := hkeeps _ (List.mem_map.mpr ⟨r, hr, rfl⟩)
      exact (hsame r rfl).mp (hmem r hr)
    cases stage with
    | preparing => trivial
    | locking rows todo => exact ⟨hrow hkeeps hp.1, hp.2⟩
    | locked rows =>
      obtain ⟨hmem, hnodup, hnone, hpending, hopen⟩ := hp
      exact ⟨hrow hkeeps hmem, hnodup, hnone, hpending, hopen⟩
  | _ => trivial

/-- A new charge leaves what is relied on. -/
theorem ChargePoint.relies_charge (hp : p.Relies s) (input : ChargeDto) : p.Relies { s with
    billing := { s.billing with receivables := s.billing.receivables.create (newReceivable input) } } := by
  refine relies_of_keeps (fun k hk => ?_) hp
  cases k with
  | invoice => trivial
  | receivable id =>
    rintro x rfl
    obtain ⟨r, hr, hid⟩ := exists_of_holds hp hk
    have hold : x.id ≠ s.billing.receivables.nextKey := hid ▸ Nat.ne_of_lt (Table.key_lt_nextKey hr)
    have hcreate := @Table.mem_create _ _ s.billing.receivables (newReceivable input) (fun _ => rfl) x
    refine ⟨fun hx => hcreate.mpr (.inl hx), fun hx => ?_⟩
    rcases hcreate.mp hx with hx | rfl
    · exact hx
    · exact absurd rfl hold

theorem outside_eq_some {input : ChargeDto} (h : (chargeWorkers issuedAt MERCHANT_BILLING_DUE_DAYS).outside input s =
    some s') : 0 ≤ input.amount ∧ s' = { s with
      billing := { s.billing with receivables := s.billing.receivables.create (newReceivable input) } } := by
  obtain ⟨⟨⟨⟩, billing⟩, hcharge, rfl⟩ := Option.map_eq_some_iff.mp h
  obtain ⟨hamount, hresult⟩ := failIf_bind_eq_ok.mp (toOption_eq_some.mp hcharge)
  obtain ⟨-, rfl⟩ := Prod.mk.inj (pure_eq_ok.mp hresult)
  exact ⟨not_lt.mp hamount, rfl⟩

theorem chargeWorkers_promises : (chargeWorkers issuedAt MERCHANT_BILLING_DUE_DAYS).Promises
    (chargeWorkers issuedAt MERCHANT_BILLING_DUE_DAYS).Exclusive ok (fun _ => True) (fun p s => p.Relies s) where
  start := by
    rintro S (input | input | opciones) p - - hstart
    · obtain rfl := Option.some.inj hstart
      trivial
    · obtain rfl := Option.some.inj hstart
      exact ⟨⟨trivial, trivial⟩, trivial⟩
    · obtain rfl := Option.some.inj hstart
      trivial
  next := by
    intro S w answer p store q _ hS hfind _ hnext
    exact ⟨trivial, (ChargePoint.next_spec (hS.at hfind) hnext).relies⟩
  stable := by
    intro S w answer p store q hexclusive hS hfind _ hnext x hx
    have hspec := ChargePoint.next_spec (hS.at hfind) hnext
    obtain ⟨hxmem, hne⟩ := Sessions.mem_others.mp hx
    have hapart := hexclusive x hxmem (w, p) (S.mem_of_find? hfind) hne
    exact ChargePoint.relies_of_keeps (fun k hk => hspec.guarded k (hapart k hk)) (hS.worker x hxmem)
  outside := by
    intro S input store _ hS _ hstore
    obtain ⟨-, rfl⟩ := outside_eq_some hstore
    exact ⟨trivial, fun x hx => ChargePoint.relies_charge (hS.worker x hx) input⟩

/-- **What a transaction locked is as it read it**, in every run. -/
theorem relies_of_reachable (h : (chargeMachine issuedAt MERCHANT_BILLING_DUE_DAYS).Reachable ok S) :
    ∀ x ∈ S.active, x.2.Relies S.committed :=
  (Workers.keeps chargeWorkers_promises (fun _ _ => trivial) (fun _ hS => Workers.exclusive hS) h).worker

/-- **All that a step can write.** -/
theorem chargeCase_of_step {a : ChargeAct} (hrelies : ∀ x ∈ S.active, x.2.Relies S.committed)
    (h : (chargeMachine issuedAt MERCHANT_BILLING_DUE_DAYS).step S a = some S') :
    ChargeCase S.committed S'.committed := by
  have hcase : (chargeWorkers issuedAt MERCHANT_BILLING_DUE_DAYS).StepCase S a S' := Workers.step_cases h
  cases hcase with
  | started => exact .same _
  | moved hfind hnext _ => exact (ChargePoint.next_spec (hrelies _ (S.mem_of_find? hfind)) hnext).writes
  | done hfind hnext => exact (ChargePoint.next_spec (hrelies _ (S.mem_of_find? hfind)) hnext).writes
  | died => exact .same _
  | changed hstore =>
    obtain ⟨hamount, rfl⟩ := outside_eq_some hstore
    exact .charged hamount

/-- **Rule of the tables.** What each write keeps, every run keeps. -/
theorem ChargeCase.invariant {I : ChargeDb → Prop} (hblank : ∀ s, s.Blank → I s)
    (hwrite : ∀ s s', ChargeCase s s' → I s → I s')
    (h : (chargeMachine issuedAt MERCHANT_BILLING_DUE_DAYS).Reachable ok S) : I S.committed := by
  have hboth : (chargeMachine issuedAt MERCHANT_BILLING_DUE_DAYS).Reachable ok S ∧ I S.committed := by
    refine Machine.invariant
      (P := fun S => (chargeMachine issuedAt MERCHANT_BILLING_DUE_DAYS).Reachable ok S ∧ I S.committed)
      (fun S hinit => ⟨.of_init hinit, hblank _ hinit.1⟩) (fun S a S' hok hstep hS => ?_) h
    exact ⟨hS.1.step hok hstep, hwrite _ _ (chargeCase_of_step (relies_of_reachable hS.1) hstep) hS.2⟩
  exact hboth.2

end Runs

end AtlasErp
