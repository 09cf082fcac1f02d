import AtlasErp.Billing.CollectedInFull
import AtlasErp.Lib.ReadCommitted

/-! # Concurrent payments

Payments as transactions that interleave statement by statement.  Each locks the receivables it allocates
to; then, for every invoice it touched, it reads all the receivables of the invoice without a lock, reads
the invoice and writes its status.

- `paymentProgram`: the statements of a payment;
- `registerMerchantPayment_alone`: alone, it commits what `registerMerchantPayment` leaves;
- `paymentSessions_books`: no interleaving loses an allocation;
- `invoiceStatus_of_reachable`: when no other payment holds uncommitted allocations on an invoice whose
  receivables are read, its status is the one its receivables give;
- `invoiceStatus_counterexample`: otherwise the invoice can stay PARTIALLY_PAID with nothing open. -/

namespace AtlasErp

open Lib

/-! ## The statements of a payment -/

/-- What a payment did so far: the rows it locked, with what it applied to each, and the invoices it
refreshed, with the status it wrote, if any. -/
structure PaymentProgress where
  input : RegisterMerchantPaymentDto
  amount : Int
  applied : List (MerchantReceivable × Int)
  refreshed : List (Nat × Option InvoiceStatus)

/-- How far a payment got. -/
inductive PaymentPoint where
  | begin (input : RegisterMerchantPaymentDto)
  | allocating (progress : PaymentProgress) (todo : List AllocationDto)
  | refreshing (progress : PaymentProgress) (todo : List Nat)
  /-- The receivables of an invoice were read. -/
  | deciding (progress : PaymentProgress) (invoiceId : Nat) (receivables : List MerchantReceivable)
      (todo : List Nat)
  /-- Its status is about to be written. -/
  | updating (progress : PaymentProgress) (invoiceId : Nat) (status : InvoiceStatus) (todo : List Nat)

/-- A payment locks rows of receivables and of invoices. -/
inductive BillingLock where
  | receivable (id : Nat)
  | invoice (id : Nat)
  deriving DecidableEq

/-- The invoices that the allocations of a payment touched. -/
def touchedBy (applied : List (MerchantReceivable × Int)) : List Nat :=
  applied.foldl (fun touched x => touch touched x.1.invoiceId) []

namespace PaymentProgress

/-- The allocations of a payment. -/
def allocate (paymentId : Nat) (db : BillingDb) (applied : List (MerchantReceivable × Int)) : BillingDb :=
  applied.foldl (fun db x => db.allocate paymentId x.1 x.2) db

/-- The statuses a payment wrote. -/
def writeStatuses (db : BillingDb) (refreshed : List (Nat × Option InvoiceStatus)) : BillingDb :=
  refreshed.foldl (fun db x =>
    match x.2 with
    | some status => db.setInvoiceStatus x.1 status
    | none => db) db

/-- What a payment wrote. -/
def writes (p : PaymentProgress) (db : BillingDb) : BillingDb :=
  writeStatuses (allocate db.payments.nextKey
    { db with payments := db.payments.create (newPayment p.input p.amount) } p.applied) p.refreshed

/-- The rows a payment locked. -/
def locks (p : PaymentProgress) : List BillingLock :=
  p.applied.map (fun x => .receivable x.1.id) ++
    p.refreshed.filterMap fun x => x.2.map fun _ => .invoice x.1

end PaymentProgress

namespace PaymentPoint

/-- What was done up to a point. -/
def progress? : PaymentPoint → Option PaymentProgress
  | .begin _ => none
  | .allocating p _ | .refreshing p _ | .deciding p _ _ _ | .updating p _ _ _ => some p

/-- The locks held at a point. -/
def locks (p : PaymentPoint) : List BillingLock := (p.progress?.map (·.locks)).getD []

/-- What was written up to a point. -/
def writes (p : PaymentPoint) (db : BillingDb) : BillingDb := (p.progress?.map (·.writes db)).getD db

/-- The next statement. -/
def next : PaymentPoint → BillingDb → Next PaymentPoint
  | .begin input, _ =>
    match checkPayment input with
    | .ok amount => .goto (.allocating ⟨input, amount, [], []⟩ input.allocations)
    | .error _ => .rollback
  | .allocating p (allocation :: todo), db =>
    match lockReceivable p.input db allocation with
    | none => .rollback
    | some receivable =>
      match checkAllocation p.input receivable allocation with
      | .ok applied => .goto (.allocating { p with applied := p.applied ++ [(receivable, applied)] } todo)
      | .error _ => .rollback
  | .allocating p [], _ => .goto (.refreshing p (touchedBy p.applied))
  | .refreshing p (invoiceId :: todo), db => .goto (.deciding p invoiceId (db.receivablesOf invoiceId) todo)
  | .refreshing _ [], _ => .commit
  | .deciding p invoiceId receivables todo, db =>
    let skipped := { p with refreshed := p.refreshed ++ [(invoiceId, none)] }
    match refreshedStatus receivables (db.invoices.find? invoiceId) with
    | none => .goto (.refreshing skipped todo)
    | some status =>
      -- a status that does not change is not written
      if (db.invoices.find? invoiceId).map (·.status) = some status then .goto (.refreshing skipped todo)
      else .goto (.updating p invoiceId status todo)
  | .updating p invoiceId status todo, _ =>
    .goto (.refreshing { p with refreshed := p.refreshed ++ [(invoiceId, some status)] } todo)

/-- All the ways one point leads to the next, with what it saw. -/
inductive Leads (db : BillingDb) : PaymentPoint → PaymentPoint → Prop where
  | checked {input amount} (ok : checkPayment input = .ok amount) :
      Leads db (.begin input) (.allocating ⟨input, amount, [], []⟩ input.allocations)
  | allocated {p allocation todo receivable applied} (mem : receivable ∈ db.receivables)
      (pos : 0 < applied) (fits : applied ≤ receivable.amountOpen) :
      Leads db (.allocating p (allocation :: todo))
        (.allocating { p with applied := p.applied ++ [(receivable, applied)] } todo)
  | allAllocated {p} : Leads db (.allocating p []) (.refreshing p (touchedBy p.applied))
  | read {p invoiceId todo} : Leads db (.refreshing p (invoiceId :: todo))
      (.deciding p invoiceId (db.receivablesOf invoiceId) todo)
  | skipped {p invoiceId receivables todo}
      (same : ∀ i, db.invoices.find? invoiceId = some i → receivables ≠ [] → i.status ≠ .cancelled →
        i.status = paymentStatusOf receivables) :
      Leads db (.deciding p invoiceId receivables todo)
        (.refreshing { p with refreshed := p.refreshed ++ [(invoiceId, none)] } todo)
  | decided {p invoiceId receivables todo} :
      Leads db (.deciding p invoiceId receivables todo)
        (.updating p invoiceId (paymentStatusOf receivables) todo)
  | updated {p invoiceId status todo} :
      Leads db (.updating p invoiceId status todo)
        (.refreshing { p with refreshed := p.refreshed ++ [(invoiceId, some status)] } todo)

theorem refreshedStatus_eq_none {rs : List MerchantReceivable} {invoice : Option MerchantInvoice} :
    refreshedStatus rs invoice = none ↔ ∀ i, invoice = some i → rs = [] ∨ i.status = .cancelled := by
  cases invoice with
  | none => simp [refreshedStatus]
  | some i => simp [refreshedStatus, or_iff_not_imp_left]

theorem refreshedStatus_eq_some {rs : List MerchantReceivable} {invoice : Option MerchantInvoice}
    {status : InvoiceStatus} (h : refreshedStatus rs invoice = some status) :
    status = paymentStatusOf rs := by
  cases invoice with
  | none => cases h
  | some i =>
    simp only [refreshedStatus] at h
    split at h
    · cases h
    · exact (Option.some.inj h).symm

theorem leads_of_next {p p' : PaymentPoint} {db : BillingDb} (h : p.next db = .goto p') : Leads db p p' := by
  cases p with
  | begin input =>
    unfold next at h
    dsimp only at h
    cases hcheck : checkPayment input with
    | error e => simp [hcheck] at h
    | ok amount =>
      rw [hcheck] at h
      obtain rfl := Next.goto.inj h
      exact .checked hcheck
  | allocating p todo =>
    cases todo with
    | nil =>
      obtain rfl := Next.goto.inj h
      exact .allAllocated
    | cons allocation todo =>
      unfold next at h
      dsimp only at h
      cases hlock : lockReceivable p.input db allocation with
      | none => simp [hlock] at h
      | some receivable =>
        cases hcheck : checkAllocation p.input receivable allocation with
        | error e => simp [hlock, hcheck] at h
        | ok applied =>
          simp only [hlock, hcheck] at h
          obtain rfl := Next.goto.inj h
          obtain ⟨-, hpos, hfits⟩ := checkAllocation_eq_ok hcheck
          exact .allocated (Table.findBy_eq_some hlock).1 hpos hfits
  | refreshing p todo =>
    cases todo with
    | nil => cases h
    | cons invoiceId todo =>
      obtain rfl := Next.goto.inj h
      exact .read
  | deciding p invoiceId receivables todo =>
    unfold next at h
    dsimp only at h
    cases hstatus : refreshedStatus receivables (db.invoices.find? invoiceId) with
    | none =>
      rw [hstatus] at h
      obtain rfl := Next.goto.inj h
      refine .skipped fun i hi hrs hc => ?_
      exact ((refreshedStatus_eq_none.mp hstatus i hi).elim hrs hc).elim
    | some status =>
      simp only [hstatus] at h
      have hvalue := refreshedStatus_eq_some hstatus
      split at h
      · rename_i hsame
        obtain rfl := Next.goto.inj h
        refine .skipped fun i hi _ _ => ?_
        rw [hi] at hsame
        exact (Option.some.inj hsame).trans hvalue
      · obtain rfl := Next.goto.inj h
        subst hvalue
        exact .decided
  | updating p invoiceId status todo =>
    obtain rfl := Next.goto.inj h
    exact .updated

theorem refreshing_of_commit {p : PaymentPoint} {db : BillingDb} (h : p.next db = .commit) :
    ∃ q, p = .refreshing q [] := by
  have hcases : ∀ p' : Next PaymentPoint, p.next db = p' → p' = .commit → ∃ q, p = .refreshing q [] := by
    intro p' hp hcommit
    subst hcommit
    cases p with
    | begin input =>
      unfold next at hp
      dsimp only at hp
      split at hp <;> cases hp
    | allocating p todo =>
      cases todo with
      | nil => cases hp
      | cons allocation todo =>
        unfold next at hp
        dsimp only at hp
        split at hp
        · cases hp
        · split at hp <;> cases hp
    | refreshing q todo =>
      cases todo with
      | nil => exact ⟨q, rfl⟩
      | cons => cases hp
    | deciding p invoiceId receivables todo =>
      unfold next at hp
      dsimp only at hp
      split at hp
      · cases hp
      · split at hp <;> cases hp
    | updating => cases hp
  exact hcases _ h rfl

end PaymentPoint

/-- Payments as transactions. -/
def paymentProgram : Program BillingDb RegisterMerchantPaymentDto BillingLock PaymentPoint where
  start := .begin
  locks := PaymentPoint.locks
  writes := PaymentPoint.writes
  next := PaymentPoint.next
  locks_start _ := rfl
  locks_next {p p' db} h k hk := by
    cases PaymentPoint.leads_of_next h <;>
      simp only [PaymentPoint.locks, PaymentPoint.progress?, PaymentProgress.locks, Option.map_some,
        Option.map_none, Option.getD_some, Option.getD_none, List.map_append, List.filterMap_append,
        List.mem_append] at hk ⊢
    · cases hk
    · exact hk.imp_left .inl
    · exact hk
    · exact hk
    · exact hk.imp_right .inl
    · exact hk
    · exact hk.imp_right .inl

/-! ## A payment alone -/

section Alone

variable {db : BillingDb}

theorem PaymentProgress.writes_skipped (q : PaymentProgress) (k : Nat) (db : BillingDb) :
    ({ q with refreshed := q.refreshed ++ [(k, none)] } : PaymentProgress).writes db = q.writes db := by
  simp only [PaymentProgress.writes, PaymentProgress.writeStatuses, List.foldl_append, List.foldl_cons,
    List.foldl_nil]

theorem PaymentProgress.writes_updated (q : PaymentProgress) (k : Nat) (status : InvoiceStatus) (db : BillingDb) :
    ({ q with refreshed := q.refreshed ++ [(k, some status)] } : PaymentProgress).writes db =
      (q.writes db).setInvoiceStatus k status := by
  simp only [PaymentProgress.writes, PaymentProgress.writeStatuses, List.foldl_append, List.foldl_cons,
    List.foldl_nil]

theorem PaymentProgress.writes_allocated {q : PaymentProgress} (hnone : q.refreshed = [])
    (x : MerchantReceivable × Int) (db : BillingDb) :
    ({ q with applied := q.applied ++ [x] } : PaymentProgress).writes db =
      (q.writes db).allocate db.payments.nextKey x.1 x.2 := by
  simp only [PaymentProgress.writes, PaymentProgress.writeStatuses, PaymentProgress.allocate, hnone,
    List.foldl_append, List.foldl_cons, List.foldl_nil]

/-- Writing the status an invoice has changes nothing. -/
theorem setInvoiceStatus_eq_self {k : Nat} {status : InvoiceStatus}
    (h : (db.invoices.find? k).map (·.status) = some status) : db.setInvoiceStatus k status = db := by
  have hkey : ∀ i : MerchantInvoice, HasKey.key ({ i with status } : MerchantInvoice) = HasKey.key i := fun _ => rfl
  have hsame : db.invoices.updateWhere (·.id = k) (fun i => { i with status }) = db.invoices := by
    refine Table.updateWhere_eq_self hkey fun i hi hk => ?_
    rw [Table.find?_eq_some.mpr ⟨hi, of_decide_eq_true hk⟩] at h
    obtain rfl := Option.some.inj h
    rfl
  rw [BillingDb.setInvoiceStatus, hsame]

theorem alone_allocating {q : PaymentProgress} (hnone : q.refreshed = []) {todo : List AllocationDto}
    {applied : BillingDb} {touched : List Nat}
    (h : todo.foldlM (applyAllocation q.input db.payments.nextKey) (q.writes db, touchedBy q.applied) =
      .ok (applied, touched)) :
    ∃ q' : PaymentProgress, paymentProgram.Alone db (.allocating q todo) (.allocating q' []) ∧
      q'.writes db = applied ∧ touchedBy q'.applied = touched := by
  induction todo generalizing q with
  | nil =>
    obtain ⟨rfl, rfl⟩ := Prod.mk.inj (pure_eq_ok.mp h)
    exact ⟨q, .refl _, rfl, rfl⟩
  | cons allocation todo ih =>
    rw [List.foldlM_cons] at h
    obtain ⟨⟨db₁, touched₁⟩, hstep, hrest⟩ := bind_eq_ok.mp h
    obtain ⟨receivable, hlock, hstep⟩ := orFail_bind_eq_ok.mp hstep
    obtain ⟨amount, hcheck, hstep⟩ := bind_eq_ok.mp hstep
    obtain ⟨rfl, rfl⟩ := Prod.mk.inj (pure_eq_ok.mp hstep)
    have hwrites := PaymentProgress.writes_allocated hnone (receivable, amount) db
    have htouched : touchedBy (q.applied ++ [(receivable, amount)]) =
        touch (touchedBy q.applied) receivable.invoiceId := by
      simp only [touchedBy, List.foldl_append, List.foldl_cons, List.foldl_nil]
    obtain ⟨q', halone, happlied, htouched'⟩ :=
      ih (q := { q with applied := q.applied ++ [(receivable, amount)] }) hnone (by rw [hwrites, htouched]; exact hrest)
    refine ⟨q', .step ?_ halone, happlied, htouched'⟩
    change PaymentPoint.next (.allocating q (allocation :: todo)) (q.writes db) = _
    unfold PaymentPoint.next
    simp only [hlock, hcheck]

theorem alone_refreshing (q : PaymentProgress) (touched : List Nat) :
    ∃ q' : PaymentProgress, paymentProgram.Alone db (.refreshing q touched) (.refreshing q' []) ∧
      q'.writes db = touched.foldl refreshInvoicePaymentStatus (q.writes db) := by
  induction touched generalizing q with
  | nil => exact ⟨q, .refl _, rfl⟩
  | cons k touched ih =>
    let rs := (q.writes db).receivablesOf k
    have hread : paymentProgram.next (.refreshing q (k :: touched)) (q.writes db) =
        .goto (.deciding q k rs touched) := rfl
    have hdecide : PaymentPoint.next (.deciding q k rs touched) (q.writes db) =
        paymentProgram.next (.deciding q k rs touched) (q.writes db) := rfl
    unfold PaymentPoint.next at hdecide
    dsimp only at hdecide
    rw [List.foldl_cons, refreshInvoicePaymentStatus]
    cases hstatus : refreshedStatus rs ((q.writes db).invoices.find? k) with
    | none =>
      obtain ⟨q', halone, hwrites⟩ := ih { q with refreshed := q.refreshed ++ [(k, none)] }
      rw [hstatus] at hdecide
      refine ⟨q', .step hread (.step hdecide.symm halone), ?_⟩
      rw [hwrites, PaymentProgress.writes_skipped]
    | some status =>
      simp only [hstatus] at hdecide
      split at hdecide
      · rename_i hsame
        obtain ⟨q', halone, hwrites⟩ := ih { q with refreshed := q.refreshed ++ [(k, none)] }
        refine ⟨q', .step hread (.step hdecide.symm halone), ?_⟩
        simp only [hwrites, PaymentProgress.writes_skipped, setInvoiceStatus_eq_self hsame]
      · obtain ⟨q', halone, hwrites⟩ := ih { q with refreshed := q.refreshed ++ [(k, some status)] }
        refine ⟨q', .step hread (.step hdecide.symm (.step rfl halone)), ?_⟩
        rw [hwrites, PaymentProgress.writes_updated]

/-- **A payment that runs alone** commits what `registerMerchantPayment` leaves. -/
theorem registerMerchantPayment_alone {input : RegisterMerchantPaymentDto} {result : MerchantPaymentResult}
    {db' : BillingDb} {init : BillingDb → Prop} (h : registerMerchantPayment input db = .ok (result, db')) :
    ∃ as, (paymentProgram.machine init).Run (fun _ _ => True) ⟨db, []⟩ as ⟨db', []⟩ := by
  obtain ⟨amount, hcheck, h⟩ := bind_eq_ok.mp h
  obtain ⟨⟨applied, touched⟩, hfold, h⟩ := bind_eq_ok.mp h
  obtain ⟨-, rfl⟩ := Prod.mk.inj (pure_eq_ok.mp h)
  obtain ⟨q, hallocating, rfl, rfl⟩ := @alone_allocating db ⟨input, amount, [], []⟩ rfl _ _ _ hfold
  obtain ⟨q', hrefreshing, hwrites⟩ := @alone_refreshing db q (touchedBy q.applied)
  have hbegin : paymentProgram.next (.begin input) db =
      .goto (.allocating ⟨input, amount, [], []⟩ input.allocations) := by
    unfold paymentProgram PaymentPoint.next
    simp only [hcheck]
  have halone : paymentProgram.Alone db (paymentProgram.start input) (.refreshing q' []) :=
    .step hbegin (hallocating.trans (.step rfl hrefreshing))
  rw [← hwrites]
  exact halone.run_commit rfl

end Alone

/-! ## What the locks give -/

/-- The receivables after some allocations. -/
def payAll (t : Table MerchantReceivable) (applied : List (MerchantReceivable × Int)) :
    Table MerchantReceivable :=
  applied.foldl (fun t x => t.put (x.1.pay x.2)) t

/-- Allocations that fit, one after the other, the receivables as they are. -/
def Applicable : Table MerchantReceivable → List (MerchantReceivable × Int) → Prop
  | _, [] => True
  | t, x :: rest => x.1 ∈ t ∧ 0 < x.2 ∧ x.2 ≤ x.1.amountOpen ∧ Applicable (t.put (x.1.pay x.2)) rest

section Applicable

variable {t t' : Table MerchantReceivable} {applied : List (MerchantReceivable × Int)}

theorem Applicable.snoc {x : MerchantReceivable × Int} (h : Applicable t applied)
    (hx : x.1 ∈ payAll t applied) (hpos : 0 < x.2) (hfits : x.2 ≤ x.1.amountOpen) :
    Applicable t (applied ++ [x]) := by
  induction applied generalizing t with
  | nil => exact ⟨hx, hpos, hfits, trivial⟩
  | cons y applied ih => exact ⟨h.1, h.2.1, h.2.2.1, ih h.2.2.2 hx⟩

/-- Only the rows of the receivables they name matter. -/
theorem Applicable.congr
    (hsame : ∀ x ∈ applied, ∀ r : MerchantReceivable, r.id = x.1.id → (r ∈ t ↔ r ∈ t'))
    (h : Applicable t applied) : Applicable t' applied := by
  induction applied generalizing t t' with
  | nil => trivial
  | cons y applied ih =>
    obtain ⟨hmem, hpos, hfits, hrest⟩ := h
    have hmem' : y.1 ∈ t' := (hsame y List.mem_cons_self y.1 rfl).mp hmem
    refine ⟨hmem', hpos, hfits, ih (fun x hx r hr => ?_) hrest⟩
    rw [Table.mem_put (r := y.1.pay y.2) hmem rfl, Table.mem_put (r := y.1.pay y.2) hmem' rfl,
      hsame x (List.mem_cons_of_mem y hx) r hr]

/-- Allocations do not move a receivable to another invoice. -/
theorem Applicable.home (h : Applicable t applied) {x : MerchantReceivable × Int} (hx : x ∈ applied) :
    ∃ y ∈ t, y.id = x.1.id ∧ y.invoiceId = x.1.invoiceId := by
  induction applied generalizing t with
  | nil => cases hx
  | cons z applied ih =>
    obtain ⟨hmem, -, -, hrest⟩ := h
    rcases List.mem_cons.mp hx with rfl | hx
    · exact ⟨x.1, hmem, rfl, rfl⟩
    · obtain ⟨y, hy, hid, hinvoice⟩ := ih hrest hx
      rcases (Table.mem_put (r := z.1.pay z.2) hmem rfl).mp hy with rfl | ⟨hy, -⟩
      · exact ⟨z.1, hmem, hid, hinvoice⟩
      · exact ⟨y, hy, hid, hinvoice⟩

theorem mem_payAll_of_not_named {r : MerchantReceivable} (h : ∀ x ∈ applied, x.1.id ≠ r.id) :
    r ∈ payAll t applied ↔ r ∈ t := by
  induction applied generalizing t with
  | nil => rfl
  | cons y applied ih =>
    refine (ih fun x hx => h x (List.mem_cons_of_mem y hx)).trans ?_
    exact Table.mem_put_ne (r := y.1.pay y.2) fun heq => h y List.mem_cons_self heq.symm

end Applicable

section Writes

variable {db db' : BillingDb} {p : PaymentProgress}

theorem receivables_writeStatuses (db : BillingDb) (refreshed : List (Nat × Option InvoiceStatus)) :
    (PaymentProgress.writeStatuses db refreshed).receivables = db.receivables ∧
      (PaymentProgress.writeStatuses db refreshed).allocations = db.allocations := by
  induction refreshed generalizing db with
  | nil => exact ⟨rfl, rfl⟩
  | cons x refreshed ih =>
    obtain ⟨k, _ | status⟩ := x
    · exact ih db
    · exact ih (db.setInvoiceStatus k status)

theorem receivables_allocate (paymentId : Nat) (db : BillingDb) (applied : List (MerchantReceivable × Int)) :
    (PaymentProgress.allocate paymentId db applied).receivables = payAll db.receivables applied ∧
      (PaymentProgress.allocate paymentId db applied).invoices = db.invoices := by
  induction applied generalizing db with
  | nil => exact ⟨rfl, rfl⟩
  | cons x applied ih => exact ih (db.allocate paymentId x.1 x.2)

theorem receivables_writes (p : PaymentProgress) (db : BillingDb) :
    (p.writes db).receivables = payAll db.receivables p.applied := by
  unfold PaymentProgress.writes
  rw [(receivables_writeStatuses _ _).1, (receivables_allocate _ _ _).1]

theorem ReceivableBooks.allocateAll {paymentId : Nat} {applied : List (MerchantReceivable × Int)}
    (h : ReceivableBooks db) (happlied : Applicable db.receivables applied) :
    ReceivableBooks (PaymentProgress.allocate paymentId db applied) := by
  induction applied generalizing db with
  | nil => exact h
  | cons x applied ih =>
    obtain ⟨hmem, hpos, hfits, hrest⟩ := happlied
    exact ih (h.allocate hmem hpos hfits) hrest

/-- What a payment writes keeps the books, when its allocations fit. -/
theorem ReceivableBooks.writes (h : ReceivableBooks db) (hp : Applicable db.receivables p.applied) :
    ReceivableBooks (p.writes db) := by
  have hcreated : ReceivableBooks { db with payments := db.payments.create (newPayment p.input p.amount) } :=
    ⟨h.bounds, h.allocated, h.allocations, h.pending⟩
  have hallocated := @ReceivableBooks.allocateAll _ db.payments.nextKey _ hcreated hp
  obtain ⟨hreceivables, hallocations⟩ := receivables_writeStatuses (PaymentProgress.allocate db.payments.nextKey
    { db with payments := db.payments.create (newPayment p.input p.amount) } p.applied) p.refreshed
  refine ⟨?_, ?_, ?_, ?_⟩ <;>
    simp only [PaymentProgress.writes, BillingDb.allocatedTo, hreceivables, hallocations]
  · exact hallocated.bounds
  · exact hallocated.allocated
  · exact hallocated.allocations
  · exact hallocated.pending

end Writes

/-- The invoices whose receivables a payment read. -/
def PaymentPoint.read : PaymentPoint → List Nat
  | .begin _ => []
  | .allocating p _ | .refreshing p _ => p.refreshed.map (·.1)
  | .deciding p invoiceId _ _ | .updating p invoiceId _ _ => p.refreshed.map (·.1) ++ [invoiceId]

/-- The invoices on whose receivables a payment has allocations. -/
def PaymentPoint.touched (p : PaymentPoint) : List Nat :=
  (p.progress?.map fun q => touchedBy q.applied).getD []

/-- A payment reads the receivables of the invoices it touched, after its last allocation. -/
def PaymentPoint.WellOrdered : PaymentPoint → Prop
  | .begin _ => True
  | .allocating p _ => p.refreshed = []
  | .refreshing p todo => ∀ k, k ∈ touchedBy p.applied ↔ k ∈ p.refreshed.map (·.1) ∨ k ∈ todo
  | .deciding p invoiceId _ todo | .updating p invoiceId _ todo =>
    ∀ k, k ∈ touchedBy p.applied ↔ k ∈ p.refreshed.map (·.1) ++ [invoiceId] ∨ k ∈ todo

/-- What was allocated up to a point. -/
def PaymentPoint.applied (p : PaymentPoint) : List (MerchantReceivable × Int) :=
  (p.progress?.map (·.applied)).getD []

/-- What a payment relies on: the rows it locked are as it left them. -/
def PaymentPoint.reliesOn (p : PaymentPoint) (db : BillingDb) : Prop :=
  Applicable db.receivables p.applied ∧ p.WellOrdered

/-- What the holder of a lock relies on. -/
def BillingLock.keeps : BillingLock → BillingDb → BillingDb → Prop
  | .receivable id, db, db' => ∀ r : MerchantReceivable, r.id = id → (r ∈ db.receivables ↔ r ∈ db'.receivables)
  | .invoice _, _, _ => True

section Discipline

variable {db db' : BillingDb} {p p' : PaymentPoint}

theorem PaymentPoint.receivables_writes (p : PaymentPoint) (db : BillingDb) :
    (p.writes db).receivables = payAll db.receivables p.applied := by
  cases p with
  | begin input => rfl
  | _ => exact AtlasErp.receivables_writes _ db

theorem PaymentPoint.reliesOn_of_leads (h : p.reliesOn db) (hleads : PaymentPoint.Leads (p.writes db) p p') :
    p'.reliesOn db := by
  obtain ⟨happlied, hordered⟩ := h
  cases hleads with
  | checked => exact ⟨trivial, rfl⟩
  | allocated hmem hpos hfits =>
    rw [PaymentPoint.receivables_writes] at hmem
    exact ⟨happlied.snoc hmem hpos hfits, hordered⟩
  | @allAllocated q =>
    refine ⟨happlied, fun k => ?_⟩
    have hnone : q.refreshed = [] := hordered
    simp [hnone]
  | read =>
    refine ⟨happlied, fun k => (hordered k).trans ?_⟩
    simp only [List.mem_append, List.mem_cons, List.not_mem_nil, or_false, or_assoc]
  | decided => exact ⟨happlied, hordered⟩
  | skipped | updated =>
    refine ⟨happlied, fun k => (hordered k).trans ?_⟩
    simp only [List.map_append, List.map_cons, List.map_nil]

theorem PaymentPoint.not_named {k : BillingLock} (hk : k ∉ p.locks) (db : BillingDb) :
    k.keeps db (p.writes db) := by
  cases k with
  | invoice => trivial
  | receivable id =>
    rintro r rfl
    rw [PaymentPoint.receivables_writes]
    refine (mem_payAll_of_not_named fun x hx heq => hk ?_).symm
    cases p with
    | begin input => cases hx
    | _ => exact List.mem_append_left _ (List.mem_map.mpr ⟨x, hx, by rw [heq]⟩)

theorem PaymentPoint.reliesOn_of_keeps (hkeeps : ∀ k ∈ p.locks, k.keeps db db') (h : p.reliesOn db) :
    p.reliesOn db' := by
  refine ⟨h.1.congr fun x hx => hkeeps (.receivable x.1.id) ?_, h.2⟩
  cases p with
  | begin input => cases hx
  | _ => exact List.mem_append_left _ (List.mem_map_of_mem hx)

theorem paymentProgram_disciplined :
    paymentProgram.Disciplined ReceivableBooks PaymentPoint.reliesOn BillingLock.keeps where
  start _ _ _ := ⟨trivial, trivial⟩
  goto _ hp hnext := PaymentPoint.reliesOn_of_leads hp (PaymentPoint.leads_of_next hnext)
  commit hbooks hp hnext := by
    obtain ⟨q, rfl⟩ := PaymentPoint.refreshing_of_commit hnext
    exact hbooks.writes hp.1
  guarded _ _ _ _ hk := PaymentPoint.not_named hk _
  locked hkeeps hp := PaymentPoint.reliesOn_of_keeps hkeeps hp

end Discipline

/-! ## The statuses -/

/-- The status of an invoice is the one its receivables give; a cancelled invoice has none of theirs. -/
def FreshInvoice (db : BillingDb) (k : Nat) : Prop :=
  ∀ i, db.invoices.find? k = some i → i.status ≠ .cancelled →
    db.receivablesOf k ≠ [] ∧ i.status = paymentStatusOf (db.receivablesOf k)

/-- Billing as the first payments find it. -/
structure BilledAccounts (db : BillingDb) : Prop where
  books : ReceivableBooks db
  fresh : ∀ k, FreshInvoice db k

/-- Payments, in any interleaving. -/
def paymentSessions : Machine (Sessions BillingDb PaymentPoint) (Act RegisterMerchantPaymentDto) :=
  paymentProgram.machine BilledAccounts

/-- The invoice whose receivables the next statement reads. -/
def PaymentPoint.reads? : PaymentPoint → Option Nat
  | .refreshing _ (invoiceId :: _) => some invoiceId
  | _ => none

/-- The receivables of an invoice are read only when no other payment in progress has allocations on them. -/
def UndisturbedRefresh (S : Sessions BillingDb PaymentPoint) : Act RegisterMerchantPaymentDto → Prop
  | .advance t => ∀ k ∈ (S.find? t).bind (·.reads?), ∀ x ∈ S.others t, k ∉ x.2.touched
  | _ => True

instance : ∀ S a, Decidable (UndisturbedRefresh S a)
  | S, .advance t => inferInstanceAs (Decidable (∀ k ∈ (S.find? t).bind (·.reads?), ∀ x ∈ S.others t,
      k ∉ x.2.touched))
  | _, .start _ _ => .isTrue trivial
  | _, .fail _ => .isTrue trivial

section Slices

variable {db db' : BillingDb} {k : Nat}

/-- An invoice and its receivables are the same in two databases. -/
def SameInvoice (k : Nat) (db db' : BillingDb) : Prop :=
  db'.invoices.find? k = db.invoices.find? k ∧ db'.receivablesOf k = db.receivablesOf k

theorem FreshInvoice.congr (hsame : SameInvoice k db db') (h : FreshInvoice db k) : FreshInvoice db' k := by
  unfold FreshInvoice
  rw [hsame.1, hsame.2]
  exact h

theorem find?_setInvoiceStatus (db : BillingDb) (j : Nat) (status : InvoiceStatus) (k : Nat) :
    (db.setInvoiceStatus j status).invoices.find? k =
      (db.invoices.find? k).map fun i => if i.id = j then { i with status } else i := by
  have hkey : ∀ i : MerchantInvoice, HasKey.key ({ i with status } : MerchantInvoice) = HasKey.key i := fun _ => rfl
  cases hfind : db.invoices.find? k with
  | none =>
    refine Table.find?_eq_none.mpr fun i hi => ?_
    obtain ⟨old, hold, rfl⟩ := (Table.mem_updateWhere hkey).mp hi
    have hne := Table.find?_eq_none.mp hfind old hold
    split <;> exact hne
  | some i =>
    refine (Table.find?_updateWhere hkey hfind).trans ?_
    simp

/-- Statuses written to other invoices leave an invoice alone. -/
theorem writeStatuses_frame {refreshed : List (Nat × Option InvoiceStatus)} (hk : k ∉ refreshed.map (·.1))
    (db : BillingDb) : SameInvoice k db (PaymentProgress.writeStatuses db refreshed) := by
  refine ⟨?_, by rw [BillingDb.receivablesOf, (receivables_writeStatuses db refreshed).1]; rfl⟩
  induction refreshed generalizing db with
  | nil => rfl
  | cons x refreshed ih =>
    rw [List.map_cons, List.mem_cons, not_or] at hk
    obtain ⟨j, _ | status⟩ := x
    · exact ih hk.2 db
    · refine (ih hk.2 (db.setInvoiceStatus j status)).trans ?_
      rw [find?_setInvoiceStatus]
      cases hfind : db.invoices.find? k with
      | none => rfl
      | some i =>
        have hid : i.id = k := (Table.find?_eq_some.mp hfind).2
        have hne : i.id ≠ j := hid ▸ hk.1
        simp [hne]

/-- Writing statuses depends, for an invoice, on that invoice only. -/
theorem writeStatuses_congr (refreshed : List (Nat × Option InvoiceStatus)) (h : SameInvoice k db db') :
    SameInvoice k (PaymentProgress.writeStatuses db refreshed)
      (PaymentProgress.writeStatuses db' refreshed) := by
  induction refreshed generalizing db db' with
  | nil => exact h
  | cons x refreshed ih =>
    obtain ⟨j, _ | status⟩ := x
    · exact ih h
    · refine ih ⟨?_, h.2⟩
      rw [find?_setInvoiceStatus, find?_setInvoiceStatus, h.1]

variable {t t' : Table MerchantReceivable} {applied : List (MerchantReceivable × Int)}

/-- Allocations on receivables of other invoices leave those of an invoice alone. -/
theorem rowsWhere_payAll_frame (happlied : Applicable t applied)
    (hk : ∀ x ∈ applied, x.1.invoiceId ≠ some k) :
    (payAll t applied).rowsWhere (·.invoiceId = some k) = t.rowsWhere (·.invoiceId = some k) := by
  induction applied generalizing t with
  | nil => rfl
  | cons x applied ih =>
    obtain ⟨hmem, -, -, hrest⟩ := happlied
    have hx : decide (x.1.invoiceId = some k) = false := decide_eq_false (hk x List.mem_cons_self)
    refine (ih hrest fun y hy => hk y (List.mem_cons_of_mem x hy)).trans ?_
    exact Table.rowsWhere_put_of_not (r := x.1.pay x.2) hmem rfl hx hx

/-- What allocations leave of the receivables of an invoice depends on these only. -/
theorem rowsWhere_payAll_congr (happlied : Applicable t applied) (happlied' : Applicable t' applied)
    (h : t'.rowsWhere (·.invoiceId = some k) = t.rowsWhere (·.invoiceId = some k)) :
    (payAll t' applied).rowsWhere (·.invoiceId = some k) =
      (payAll t applied).rowsWhere (·.invoiceId = some k) := by
  induction applied generalizing t t' with
  | nil => exact h
  | cons x applied ih =>
    obtain ⟨hmem, -, -, hrest⟩ := happlied
    obtain ⟨hmem', -, -, hrest'⟩ := happlied'
    refine ih hrest hrest' ?_
    rw [Table.rowsWhere_put (r := x.1.pay x.2) hmem rfl rfl,
      Table.rowsWhere_put (r := x.1.pay x.2) hmem' rfl rfl, h]

theorem mem_touchedBy : k ∈ touchedBy applied ↔ ∃ x ∈ applied, x.1.invoiceId = some k := by
  have hfold : ∀ (applied : List (MerchantReceivable × Int)) (touched : List Nat),
      k ∈ applied.foldl (fun touched x => touch touched x.1.invoiceId) touched ↔
        k ∈ touched ∨ ∃ x ∈ applied, x.1.invoiceId = some k := by
    intro applied
    induction applied with
    | nil => simp
    | cons x applied ih =>
      intro touched
      rw [List.foldl_cons, ih, mem_touch]
      simp only [List.mem_cons, exists_eq_or_imp, or_assoc]
  exact (hfold applied []).trans (or_iff_right List.not_mem_nil)

/-- A payment leaves alone the invoices it neither touched nor refreshed. -/
theorem PaymentProgress.writes_frame {p : PaymentProgress} (happlied : Applicable db.receivables p.applied)
    (htouched : k ∉ touchedBy p.applied) (hrefreshed : k ∉ p.refreshed.map (·.1)) :
    SameInvoice k db (p.writes db) := by
  rw [mem_touchedBy] at htouched
  obtain ⟨hfind, -⟩ := writeStatuses_frame hrefreshed (PaymentProgress.allocate db.payments.nextKey
    { db with payments := db.payments.create (newPayment p.input p.amount) } p.applied)
  refine ⟨hfind.trans (congrArg (·.find? k) (receivables_allocate _ _ _).2), ?_⟩
  unfold BillingDb.receivablesOf
  rw [receivables_writes]
  exact rowsWhere_payAll_frame happlied fun x hx heq => htouched ⟨x, hx, heq⟩

/-- What a payment makes of an invoice depends on that invoice only. -/
theorem PaymentProgress.writes_congr {p : PaymentProgress} (happlied : Applicable db.receivables p.applied)
    (happlied' : Applicable db'.receivables p.applied) (h : SameInvoice k db db') :
    SameInvoice k (p.writes db) (p.writes db') := by
  refine writeStatuses_congr p.refreshed ⟨?_, ?_⟩
  · rw [(receivables_allocate _ _ _).2, (receivables_allocate _ _ _).2]
    exact h.1
  · unfold BillingDb.receivablesOf
    rw [(receivables_allocate _ _ _).1, (receivables_allocate _ _ _).1]
    exact rowsWhere_payAll_congr happlied happlied' h.2

end Slices

section Refresh

variable {db db' : BillingDb} {p p' : PaymentPoint}

/-- What a payment makes of the invoices it read: their statuses are fresh, or about to be. -/
def PaymentPoint.refreshes (p : PaymentPoint) (db : BillingDb) : Prop :=
  match p with
  | .begin _ => True
  | .allocating q _ | .refreshing q _ => ∀ k ∈ q.refreshed.map (·.1), FreshInvoice (q.writes db) k
  | .deciding q invoiceId receivables _ => (∀ k ∈ q.refreshed.map (·.1), FreshInvoice (q.writes db) k) ∧
      receivables = (q.writes db).receivablesOf invoiceId
  | .updating q invoiceId status _ => (∀ k ∈ q.refreshed.map (·.1), FreshInvoice (q.writes db) k) ∧
      status = paymentStatusOf ((q.writes db).receivablesOf invoiceId)

theorem PaymentPoint.refreshes_congr (happlied : Applicable db.receivables p.applied)
    (happlied' : Applicable db'.receivables p.applied) (hsame : ∀ k ∈ p.read, SameInvoice k db db')
    (h : p.refreshes db) : p.refreshes db' := by
  have hfresh : ∀ {q : PaymentProgress}, Applicable db.receivables q.applied → Applicable db'.receivables q.applied →
      (∀ k ∈ q.refreshed.map (·.1), SameInvoice k db db') →
      (∀ k ∈ q.refreshed.map (·.1), FreshInvoice (q.writes db) k) →
      ∀ k ∈ q.refreshed.map (·.1), FreshInvoice (q.writes db') k := by
    intro q h h' hsame hfresh k hk
    exact (hfresh k hk).congr (PaymentProgress.writes_congr h h' (hsame k hk))
  cases p with
  | begin input => trivial
  | allocating q todo => exact hfresh happlied happlied' hsame h
  | refreshing q todo => exact hfresh happlied happlied' hsame h
  | deciding q invoiceId receivables todo =>
    refine ⟨hfresh happlied happlied' (fun k hk => hsame k (List.mem_append_left _ hk)) h.1, ?_⟩
    have hread := hsame invoiceId (List.mem_append_right _ (List.mem_singleton.mpr rfl))
    rw [(PaymentProgress.writes_congr happlied happlied' hread).2]
    exact h.2
  | updating q invoiceId status todo =>
    refine ⟨hfresh happlied happlied' (fun k hk => hsame k (List.mem_append_left _ hk)) h.1, ?_⟩
    have hread := hsame invoiceId (List.mem_append_right _ (List.mem_singleton.mpr rfl))
    rw [(PaymentProgress.writes_congr happlied happlied' hread).2]
    exact h.2

theorem kept_by_payAll {t : Table MerchantReceivable} {applied : List (MerchantReceivable × Int)}
    (happlied : Applicable t applied) {r : MerchantReceivable} (hr : r ∈ t) :
    ∃ r' ∈ payAll t applied, r'.invoiceId = r.invoiceId := by
  induction applied generalizing t r with
  | nil => exact ⟨r, hr, rfl⟩
  | cons x applied ih =>
    obtain ⟨hmem, -, -, hrest⟩ := happlied
    have hput := fun {y} => @Table.mem_put _ _ t x.1 (x.1.pay x.2) hmem rfl y
    by_cases hid : r.id = x.1.id
    · obtain rfl : r = x.1 := Table.eq_of_key_eq hr hmem hid
      exact ih (r := x.1.pay x.2) hrest (hput.mpr (.inl rfl))
    · exact ih hrest (hput.mpr (.inr ⟨hr, hid⟩))

/-- An invoice that a payment touched has receivables. -/
theorem receivablesOf_ne_nil {q : PaymentProgress} (happlied : Applicable db.receivables q.applied) {k : Nat}
    (hk : k ∈ touchedBy q.applied) : (q.writes db).receivablesOf k ≠ [] := by
  obtain ⟨x, hx, hxk⟩ := mem_touchedBy.mp hk
  obtain ⟨y, hy, -, hyx⟩ := happlied.home hx
  obtain ⟨r, hr, hry⟩ := kept_by_payAll happlied hy
  refine List.ne_nil_of_mem (mem_receivablesOf.mpr ⟨?_, hry.trans (hyx.trans hxk)⟩)
  rw [receivables_writes]
  exact hr

/-- A written status is fresh when it is the one the receivables give. -/
theorem FreshInvoice.set {k j : Nat} {status : InvoiceStatus} (hnonempty : db.receivablesOf k ≠ [])
    (hstatus : status = paymentStatusOf (db.receivablesOf k)) (h : j ≠ k → FreshInvoice db j) :
    FreshInvoice (db.setInvoiceStatus k status) j := by
  intro i hi hc
  rw [find?_setInvoiceStatus] at hi
  obtain ⟨old, hold, rfl⟩ := Option.map_eq_some_iff.mp hi
  have hid : old.id = j := (Table.find?_eq_some.mp hold).2
  by_cases hjk : j = k
  · rw [if_pos (hid.trans hjk), hjk]
    exact ⟨hnonempty, hstatus⟩
  · have hne : old.id ≠ k := fun heq => hjk (hid.symm.trans heq)
    rw [if_neg hne] at hc ⊢
    exact h hjk old hold hc

theorem PaymentPoint.refreshes_of_leads (hp : p.reliesOn db) (h : p.refreshes db)
    (hleads : PaymentPoint.Leads (p.writes db) p p') : p'.refreshes db := by
  obtain ⟨happlied, hordered⟩ := hp
  cases hleads with
  | checked => exact nofun
  | @allocated q =>
    have hnone : q.refreshed = [] := hordered
    intro k hk
    rw [hnone] at hk
    cases hk
  | allAllocated => exact h
  | read => exact ⟨h, rfl⟩
  | @skipped q invoiceId receivables todo hsame =>
    obtain ⟨hfresh, rfl⟩ := h
    have htouched : invoiceId ∈ touchedBy q.applied := (hordered invoiceId).mpr (by simp)
    intro k hk
    rw [PaymentProgress.writes_skipped]
    rw [List.map_append, List.mem_append, List.map_singleton, List.mem_singleton] at hk
    rcases hk with hk | rfl
    · exact hfresh k hk
    · have hnonempty := receivablesOf_ne_nil happlied htouched
      exact fun i hi hc => ⟨hnonempty, hsame i hi hnonempty hc⟩
  | decided => exact ⟨h.1, h.2 ▸ rfl⟩
  | @updated q invoiceId status todo =>
    obtain ⟨hfresh, rfl⟩ := h
    have htouched : invoiceId ∈ touchedBy q.applied := (hordered invoiceId).mpr (by simp)
    intro k hk
    rw [PaymentProgress.writes_updated]
    rw [List.map_append, List.mem_append, List.map_singleton, List.mem_singleton] at hk
    refine FreshInvoice.set (receivablesOf_ne_nil happlied htouched) rfl fun hne => ?_
    exact hfresh k (hk.resolve_right hne)

/-- What a payment read, it had read before or reads now. -/
theorem PaymentPoint.read_of_leads {k : Nat} (hk : k ∈ p'.read) (hleads : PaymentPoint.Leads db p p')
    : k ∈ p.read ∨ p.reads? = some k := by
  cases hleads with
  | checked => cases hk
  | read =>
    rcases List.mem_append.mp hk with hk | hk
    · exact .inl hk
    · exact .inr (congrArg some (List.mem_singleton.mp hk).symm)
  | skipped | updated =>
    rw [PaymentPoint.read, List.map_append] at hk
    exact .inl hk
  | _ => exact .inl hk

/-- What a payment read, it touched. -/
theorem PaymentPoint.touched_of_read (hp : p.WellOrdered) {k : Nat} (hk : k ∈ p.read) : k ∈ p.touched := by
  cases p with
  | begin input => cases hk
  | allocating q todo =>
    have hnone : q.refreshed = [] := hp
    rw [PaymentPoint.read, hnone] at hk
    cases hk
  | _ => exact (hp k).mpr (.inl hk)

variable {S S' : Sessions BillingDb PaymentPoint} {a : Act RegisterMerchantPaymentDto}

/-- Every committed status is fresh, every payment makes the invoices it read so, and no two payments read
the receivables of one invoice. -/
structure StatusesFresh (S : Sessions BillingDb PaymentPoint) : Prop where
  committed : ∀ k, FreshInvoice S.committed k
  refreshes : ∀ x ∈ S.active, x.2.refreshes S.committed
  apart : ∀ x ∈ S.active, ∀ y ∈ S.active, x.1 ≠ y.1 → ∀ k ∈ x.2.read, k ∉ y.2.read

theorem StatusesFresh.others (h : StatusesFresh S) (t : Nat) : StatusesFresh { S with active := S.others t } where
  committed := h.committed
  refreshes x hx := h.refreshes x (Sessions.mem_others.mp hx).1
  apart x hx y hy := h.apart x (Sessions.mem_others.mp hx).1 y (Sessions.mem_others.mp hy).1

/-- A payment that joins with invoices no other one read keeps the statuses fresh. -/
theorem StatusesFresh.join (h : StatusesFresh S) {t : Nat} (hp : p.refreshes S.committed)
    (hapart : ∀ x ∈ S.others t, ∀ k ∈ p.read, k ∉ x.2.read) :
    StatusesFresh { S with active := (t, p) :: S.others t } where
  committed := h.committed
  refreshes x hx := by
    rcases List.mem_cons.mp hx with rfl | hx
    · exact hp
    · exact (h.others t).refreshes x hx
  apart x hx y hy hne k hk := by
    rcases List.mem_cons.mp hx with rfl | hx' <;> rcases List.mem_cons.mp hy with rfl | hy'
    · exact absurd rfl hne
    · exact hapart y hy' k hk
    · exact fun hk' => hapart x hx' k hk' hk
    · exact (h.others t).apart x hx' y hy' hne k hk

theorem StatusesFresh.step (h : StatusesFresh S) (hok : UndisturbedRefresh S a)
    (hserves : Program.Serves ReceivableBooks PaymentPoint.reliesOn S)
    (hserves' : Program.Serves ReceivableBooks PaymentPoint.reliesOn S')
    (hstep : paymentProgram.step S a = some S') : StatusesFresh S' := by
  have hordered : ∀ x ∈ S.active, x.2.WellOrdered := fun x hx => (hserves.2 x hx).2
  cases Program.step_cases hstep with
  | started => exact h.join trivial fun _ _ _ hk => absurd hk List.not_mem_nil
  | @moved t p p' hfind hnext hfree =>
    have hmem := S.mem_of_find? hfind
    have hleads := PaymentPoint.leads_of_next hnext
    refine h.join (PaymentPoint.refreshes_of_leads (hserves.2 _ hmem) (h.refreshes _ hmem) hleads) ?_
    intro x hx k hk hxk
    obtain ⟨hxmem, hne⟩ := Sessions.mem_others.mp hx
    rcases PaymentPoint.read_of_leads hk hleads with hk | hreads
    · exact h.apart x hxmem (t, p) hmem hne k hxk hk
    · -- the receivables are read now: no other payment has allocations on them
      have hquiet := hok k (by rw [hfind]; exact hreads) x hx
      exact hquiet (PaymentPoint.touched_of_read (hordered x hxmem) hxk)
  | @committed t p hfind hnext =>
    have hmem := S.mem_of_find? hfind
    obtain ⟨q, rfl⟩ := PaymentPoint.refreshing_of_commit hnext
    obtain ⟨happlied, hread⟩ := hserves.2 _ hmem
    have hframe : ∀ k, k ∉ q.refreshed.map (·.1) → SameInvoice k S.committed (q.writes S.committed) := by
      intro k hk
      have htouched : k ∉ touchedBy q.applied := fun hin => ((hread k).mp hin).elim hk nofun
      exact PaymentProgress.writes_frame happlied htouched hk
    refine ⟨fun k => ?_, fun x hx => ?_, (h.others t).apart⟩
    · by_cases hk : k ∈ q.refreshed.map (·.1)
      · exact h.refreshes _ hmem k hk
      · exact (h.committed k).congr (hframe k hk)
    · obtain ⟨hxmem, hne⟩ := Sessions.mem_others.mp hx
      refine PaymentPoint.refreshes_congr (hserves.2 x hxmem).1 (hserves'.2 x hx).1 (fun k hk => ?_)
        (h.refreshes x hxmem)
      exact hframe k (h.apart x hxmem _ hmem hne k hk)
  | rolledBack => exact h.others _
  | failed => exact h.others _

/-- No interleaving of payments loses an allocation. -/
theorem paymentSessions_books {ok : Sessions BillingDb PaymentPoint → Act RegisterMerchantPaymentDto → Prop}
    (h : paymentSessions.Reachable ok S) : ReceivableBooks S.committed :=
  (Program.serves paymentProgram_disciplined (fun _ hinit => BilledAccounts.books hinit) h).1

theorem freshInvoice_of_reachable (h : paymentSessions.Reachable UndisturbedRefresh S) (k : Nat) :
    FreshInvoice S.committed k := by
  have hall : paymentProgram.Exclusive S ∧ Program.Serves ReceivableBooks PaymentPoint.reliesOn S ∧
      StatusesFresh S := by
    refine Machine.invariant (P := fun S => paymentProgram.Exclusive S ∧
      Program.Serves ReceivableBooks PaymentPoint.reliesOn S ∧ StatusesFresh S)
      (fun S hinit => ?_) (fun S a S' hok hstep hS => ?_) h
    · obtain ⟨hbilled, hnone⟩ := hinit
      have hempty : ∀ x, x ∉ S.active := fun x hx => by
        rw [hnone] at hx
        cases hx
      exact ⟨fun x hx => absurd hx (hempty x), ⟨hbilled.books, fun x hx => absurd hx (hempty x)⟩,
        ⟨hbilled.fresh, fun x hx => absurd hx (hempty x), fun x hx => absurd hx (hempty x)⟩⟩
    · obtain ⟨hexclusive, hserves, hfresh⟩ := hS
      have hserves' := paymentProgram_disciplined.step hexclusive hstep hserves
      exact ⟨hexclusive.step hstep, hserves', hfresh.step hok hserves hserves' hstep⟩
  exact hall.2.2.committed k

end Refresh

/-! ## What a status says -/

/-- The status of an invoice says what is settled of it. -/
def SaysWhatIsSettled (db : BillingDb) (i : MerchantInvoice) : Prop :=
  (i.status = .paid ↔ ∀ r ∈ db.receivablesOf i.id, r.amountOpen = 0) ∧
    (i.status = .partiallyPaid ↔ 0 < db.allocatedToInvoice i.id ∧ db.allocatedToInvoice i.id < db.billedOn i.id)

theorem saysWhatIsSettled_of_fresh {db : BillingDb} (hbooks : ReceivableBooks db) {i : MerchantInvoice}
    (hstatus : i.status = paymentStatusOf (db.receivablesOf i.id)) : SaysWhatIsSettled db i := by
  have hbounds : ∀ r ∈ db.receivablesOf i.id, 0 ≤ r.amountOpen ∧ r.amountOpen ≤ r.amountOriginal := fun r hr =>
    hbooks.bounds r (mem_receivablesOf.mp hr).1
  obtain ⟨hsettled, hbilled⟩ := hbooks.allocatedToInvoice_eq i.id
  have hsome : 0 < db.allocatedToInvoice i.id ↔
      ∃ r ∈ db.receivablesOf i.id, r.amountOpen < r.amountOriginal := by
    rw [hsettled, sum_pos_iff fun r hr => sub_nonneg.mpr (hbounds r hr).2]
    simp only [sub_pos]
  have hnotall : db.allocatedToInvoice i.id < db.billedOn i.id ↔
      ∃ r ∈ db.receivablesOf i.id, r.amountOpen ≠ 0 := by
    rw [hbilled, lt_add_iff_pos_right, sum_pos_iff fun r hr => (hbounds r hr).1]
    refine exists_congr fun r => and_congr_right fun hr => ?_
    have hnonneg := (hbounds r hr).1
    omega
  refine ⟨by rw [hstatus, paymentStatusOf_eq_paid], ?_⟩
  rw [hstatus, paymentStatusOf_eq_partiallyPaid, hsome, hnotall]

/-- **The status is not lost** when the receivables of an invoice are only read while no other payment in
progress has allocations on them: every status says what is settled, whatever the interleaving. -/
theorem invoiceStatus_of_reachable {S : Sessions BillingDb PaymentPoint}
    (h : paymentSessions.Reachable UndisturbedRefresh S) :
    ∀ i ∈ S.committed.invoices, i.status ≠ .cancelled → SaysWhatIsSettled S.committed i := by
  intro i hi hc
  obtain ⟨-, hstatus⟩ := freshInvoice_of_reachable h i.id i (Table.find?_key hi) hc
  exact saysWhatIsSettled_of_fresh (paymentSessions_books h) hstatus

/-- What billing leaves is what payments find. -/
theorem billedAccounts_of_reachable {db : BillingDb} (h : billingSystem.Reachable (fun _ _ => True) db) :
    BilledAccounts db := by
  have hbooks := billingBooks_of_reachable h
  refine ⟨hbooks.toReceivableBooks, fun k i hi _ => ?_⟩
  obtain ⟨hmem, rfl⟩ := Table.find?_eq_some.mp hi
  obtain ⟨r, hr, hrk⟩ := (hbooks.invoices i hmem).nonempty
  exact ⟨List.ne_nil_of_mem (mem_receivablesOf.mpr ⟨hr, hrk⟩), hbooks.status i hmem List.not_mem_nil⟩

/-! ## Two payments of one invoice -/

section Example

/-- An invoice of 100.00 on two charges of 50.00. -/
def twoCharges : BillingDb where
  products := []
  receivables := ⟨[⟨1, 7, some 1, "MONTHLY_FEE", none, none, 5000, 5000, "BOB", 0, .pending⟩,
    ⟨2, 7, some 1, "MDR", none, none, 5000, 5000, "BOB", 0, .pending⟩], by decide⟩
  invoices := ⟨[⟨1, 7, none, "F-1", 0, 30, 10000, 0, 10000, .issued, none⟩], by decide⟩
  invoiceLines := .empty
  payments := .empty
  allocations := .empty

/-- The payment of a charge. -/
def paymentOf50 (receivableId : Nat) : RegisterMerchantPaymentDto :=
  ⟨7, 5000, "BOB", 0, none, none, [⟨receivableId, 5000⟩]⟩

theorem twoCharges_billed : BilledAccounts twoCharges := by
  have hrows : ∀ r ∈ twoCharges.receivables.rows, 0 ≤ r.amountOpen ∧ r.amountOpen ≤ r.amountOriginal ∧
      twoCharges.allocatedTo r.id = r.amountOriginal - r.amountOpen ∧ r.amountOpen = r.amountOriginal := by decide
  refine ⟨⟨fun r hr => ⟨(hrows r hr).1, (hrows r hr).2.1⟩, fun r hr => (hrows r hr).2.2.1,
    fun a ha => absurd ha (Table.not_mem_empty a), fun r hr _ => (hrows r hr).2.2.2⟩, fun k i hi _ => ?_⟩
  obtain ⟨hmem, rfl⟩ := Table.find?_eq_some.mp hi
  obtain rfl := List.mem_singleton.mp hmem
  decide

/-- Each payment allocates, reads the receivables of the invoice before the other commits, and commits. -/
def crossedPayments : Sessions BillingDb PaymentPoint :=
  paymentSessions.after ⟨twoCharges, []⟩ [.start 1 (paymentOf50 1), .start 2 (paymentOf50 2), .advance 1,
    .advance 2, .advance 1, .advance 2, .advance 1, .advance 1, .advance 2, .advance 2, .advance 1, .advance 2,
    .advance 1, .advance 1, .advance 2, .advance 2]

/-- Both payments committed and nothing is open, but the invoice is PARTIALLY_PAID. -/
theorem invoiceStatus_counterexample :
    ¬∀ S, paymentSessions.Reachable (fun _ _ => True) S → S.active = [] →
      ∀ i ∈ S.committed.invoices, i.status ≠ .cancelled → SaysWhatIsSettled S.committed i := by
  intro h
  have hreached : paymentSessions.Reachable (fun _ _ => True) crossedPayments :=
    paymentSessions.reachable_after ⟨twoCharges_billed, rfl⟩ _
  have hdone : crossedPayments.active = [] := List.eq_nil_of_length_eq_zero (by decide)
  have hstuck : ∃ i ∈ crossedPayments.committed.invoices.rows, i.status = .partiallyPaid ∧
      ∀ r ∈ crossedPayments.committed.receivablesOf i.id, r.amountOpen = 0 := by decide
  obtain ⟨i, hi, hsomePaid, hzero⟩ := hstuck
  have hpaid := (h _ hreached hdone i hi (by rw [hsomePaid]; nofun)).1.mpr hzero
  rw [hsomePaid] at hpaid
  cases hpaid

/-- The second payment begins when the first committed. -/
def queuedPayments : Sessions BillingDb PaymentPoint :=
  paymentSessions.afterIf UndisturbedRefresh ⟨twoCharges, []⟩ [.start 1 (paymentOf50 1), .advance 1, .advance 1,
    .advance 1, .advance 1, .advance 1, .advance 1, .advance 1, .start 2 (paymentOf50 2), .advance 2, .advance 2,
    .advance 2, .advance 2, .advance 2, .advance 2, .advance 2]

theorem invoiceStatus_of_reachable_queued :
    queuedPayments.committed.invoices.rows.map (·.status) = [.paid] ∧
      ∀ i ∈ queuedPayments.committed.invoices, i.status ≠ .cancelled →
        SaysWhatIsSettled queuedPayments.committed i :=
  ⟨by decide,
    invoiceStatus_of_reachable (paymentSessions.reachable_afterIf UndisturbedRefresh ⟨twoCharges_billed, rfl⟩ _)⟩

end Example

end AtlasErp
