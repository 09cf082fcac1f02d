import AtlasErp.Billing.ChargeSessions

/-! # The ledger of the charges

What is open of a charge is what was charged less what was allocated to it, its status says so, and the allocations of
a payment are the payment, in one currency.

- `ChargeLedger`: these books; `ChargeLedger.writes`: every write keeps them;
- `ledger_of_reachable`: so they hold in every run, and a payment writes everything at once or nothing. -/

namespace AtlasErp

open Lib

/-- The status of a charge says what is settled of it. -/
def MerchantReceivable.Settled (r : MerchantReceivable) : Prop :=
  (r.amountOpen = r.amountOriginal ∧ r.status = .pending) ∨
    (r.amountOpen < r.amountOriginal ∧ r.status = if r.amountOpen = 0 then .paid else .partiallyPaid)

/-- What a payment allocated. -/
def BillingDb.allocatedBy (db : BillingDb) (paymentId : Nat) : Int :=
  db.allocations.total fun a => if a.paymentId = paymentId then a.amountApplied else 0

/-- The allocations of a payment are its amount, on charges of its currency. -/
structure AllocatedInFull (db : BillingDb) (p : MerchantPayment) : Prop where
  amount : db.allocatedBy p.id = p.amount
  currency : ∀ a ∈ db.allocations, a.paymentId = p.id →
    ∃ r ∈ db.receivables, r.id = a.receivableId ∧ currencyCode r.currency = p.currency

/-- The ledger of the charges. -/
structure ChargeLedger (db : BillingDb) : Prop extends ReceivableBooks db where
  settled : ∀ r ∈ db.receivables, r.Settled
  payments : ∀ p ∈ db.payments, AllocatedInFull db p
  paid : ∀ a ∈ db.allocations, ∃ p ∈ db.payments, p.id = a.paymentId

section Writes

variable {db : BillingDb} {t : Table MerchantReceivable} {applied : List (MerchantReceivable × Int)} {q : PaymentProgress}

/-- What an allocation that fits keeps of a row, several keep of every row. -/
theorem forall_mem_payAll {P : MerchantReceivable → Prop}
    (hpay : ∀ r amount, P r → 0 < amount → amount ≤ r.amountOpen → P (r.pay amount)) (happlied : Applicable t applied)
    (h : ∀ r ∈ t, P r) : ∀ r ∈ payAll t applied, P r := by
  induction applied generalizing t with
  | nil => exact h
  | cons x applied ih =>
    obtain ⟨hmem, hpos, hfits, hrest⟩ := happlied
    refine ih hrest fun r hr => ?_
    rcases (Table.mem_put (r := x.1.pay x.2) hmem rfl).mp hr with rfl | ⟨hr, -⟩
    · exact hpay x.1 x.2 (h x.1 hmem) hpos hfits
    · exact h r hr

/-- The charges are the same ones, with the same currencies. -/
theorem exists_mem_payAll (happlied : Applicable t applied) {r : MerchantReceivable} (hr : r ∈ t) :
    ∃ r' ∈ payAll t applied, r'.id = r.id ∧ r'.invoiceId = r.invoiceId ∧ r'.currency = r.currency := by
  induction applied generalizing t r with
  | nil => exact ⟨r, hr, rfl, rfl, rfl⟩
  | cons x applied ih =>
    obtain ⟨hmem, -, -, hrest⟩ := happlied
    have hput := fun {y} => @Table.mem_put _ _ t x.1 (x.1.pay x.2) hmem rfl y
    by_cases hid : r.id = x.1.id
    · obtain rfl : r = x.1 := Table.eq_of_key_eq hr hmem hid
      exact ih (r := x.1.pay x.2) hrest (hput.mpr (.inl rfl))
    · exact ih hrest (hput.mpr (.inr ⟨hr, hid⟩))

/-- What is allocated to is there, in the currency it had when it was locked. -/
theorem Applicable.exists_currency (happlied : Applicable t applied) {x : MerchantReceivable × Int} (hx : x ∈ applied) :
    ∃ r ∈ t, r.id = x.1.id ∧ r.currency = x.1.currency := by
  induction applied generalizing t with
  | nil => cases hx
  | cons z applied ih =>
    obtain ⟨hmem, -, -, hrest⟩ := happlied
    rcases List.mem_cons.mp hx with rfl | hx
    · exact ⟨x.1, hmem, rfl, rfl⟩
    · obtain ⟨r, hr, hid, hcurrency⟩ := ih hrest hx
      rcases (Table.mem_put (r := z.1.pay z.2) hmem rfl).mp hr with rfl | ⟨hr, -⟩
      · exact ⟨z.1, hmem, hid, hcurrency⟩
      · exact ⟨r, hr, hid, hcurrency⟩

/-- The row of an allocation. -/
def allocationRow (paymentId : Nat) (x : MerchantReceivable × Int) (id : Nat) : MerchantPaymentAllocation :=
  ⟨id, paymentId, x.1.id, x.2⟩

/-- A payment writes its row and one row for each allocation. -/
theorem PaymentProgress.payments_writes (q : PaymentProgress) (db : BillingDb) :
    (q.writes db).payments = db.payments.create (newPayment q.input q.amount) ∧
      (q.writes db).allocations =
        q.applied.foldl (fun t x => t.create (allocationRow db.payments.nextKey x)) db.allocations := by
  have hallocate : ∀ (applied : List (MerchantReceivable × Int)) (k : Nat) (db : BillingDb),
      (PaymentProgress.allocate k db applied).payments = db.payments ∧
        (PaymentProgress.allocate k db applied).allocations =
          applied.foldl (fun t x => t.create (allocationRow k x)) db.allocations := by
    intro applied k
    induction applied with
    | nil => exact fun _ => ⟨rfl, rfl⟩
    | cons x applied ih => exact fun db => ih (db.allocate k x.1 x.2)
  have hstatuses : ∀ (refreshed : List (Nat × Option InvoiceStatus)) (db : BillingDb),
      (PaymentProgress.writeStatuses db refreshed).payments = db.payments := by
    intro refreshed
    induction refreshed with
    | nil => exact fun _ => rfl
    | cons x refreshed ih =>
      obtain ⟨k, _ | status⟩ := x
      · exact ih
      · exact fun db => ih (db.setInvoiceStatus k status)
  unfold PaymentProgress.writes
  rw [hstatuses, (receivables_writeStatuses _ _).2]
  exact hallocate q.applied _ _

theorem allocatedBy_writes (q : PaymentProgress) (db : BillingDb) (k : Nat) : (q.writes db).allocatedBy k =
    db.allocatedBy k + if db.payments.nextKey = k then (q.applied.map (·.2)).sum else 0 := by
  have htotal := @Table.total_foldl_create _ _ db.allocations (MerchantReceivable × Int)
    (allocationRow db.payments.nextKey) (fun _ _ => rfl) (fun a => if a.paymentId = k then a.amountApplied else 0)
    (fun x => if db.payments.nextKey = k then x.2 else 0) (fun _ _ => rfl) q.applied
  unfold BillingDb.allocatedBy
  rw [(q.payments_writes db).2, htotal]
  split <;> simp

end Writes

/-! ## Every write keeps the ledger -/

section Ledger

variable {db db' : BillingDb} {q : PaymentProgress} {s s' : ChargeDb}

theorem ChargeDb.Blank.ledger (h : s.Blank) : ChargeLedger s.billing := by
  have hreceivables : ∀ r, r ∉ s.billing.receivables := fun r => h.receivables ▸ Table.not_mem_empty r
  have hpayments : ∀ p, p ∉ s.billing.payments := fun p => h.payments ▸ Table.not_mem_empty p
  have hallocations : ∀ a, a ∉ s.billing.allocations := fun a => h.allocations ▸ Table.not_mem_empty a
  exact ⟨⟨fun r hr => absurd hr (hreceivables r), fun r hr => absurd hr (hreceivables r),
    fun a ha => absurd ha (hallocations a), fun r hr => absurd hr (hreceivables r)⟩,
    fun r hr => absurd hr (hreceivables r), fun p hp => absurd hp (hpayments p), fun a ha => absurd ha (hallocations a)⟩

/-- Rows that are added or tied to an invoice leave what the payments say. -/
theorem AllocatedInFull.congr {p : MerchantPayment} (h : AllocatedInFull db p) (hallocations : db'.allocations = db.allocations)
    (hreceivables : ∀ r ∈ db.receivables, ∃ r' ∈ db'.receivables, r'.id = r.id ∧ r'.currency = r.currency) :
    AllocatedInFull db' p := by
  refine ⟨?_, fun a ha hp => ?_⟩
  · rw [BillingDb.allocatedBy, hallocations]
    exact h.amount
  · obtain ⟨r, hr, hid, hcurrency⟩ := h.currency a (hallocations ▸ ha) hp
    obtain ⟨r', hr', hid', hcurrency'⟩ := hreceivables r hr
    exact ⟨r', hr', hid'.trans hid, hcurrency' ▸ hcurrency⟩

theorem ChargeLedger.charge (h : ChargeLedger db) {input : ChargeDto} (hamount : 0 ≤ input.amount) :
    ChargeLedger { db with receivables := db.receivables.create (newReceivable input) } := by
  have hcreate := fun {x} => @Table.mem_create _ _ db.receivables (newReceivable input) (fun _ => rfl) x
  have hzero : db.allocatedTo db.receivables.nextKey = 0 := by
    refine Table.total_eq_zero fun a ha => if_neg fun heq => ?_
    obtain ⟨r, hr, hid⟩ := h.allocations a ha
    have hlt : r.id < db.receivables.nextKey := Table.key_lt_nextKey hr
    omega
  refine ⟨⟨fun r hr => ?_, fun r hr => ?_, fun a ha => ?_, fun r hr hpending => ?_⟩, fun r hr => ?_, fun p hp => ?_, h.paid⟩
  · rcases hcreate.mp hr with hr | rfl
    · exact h.bounds r hr
    · exact ⟨hamount, le_refl _⟩
  · rcases hcreate.mp hr with hr | rfl
    · exact h.allocated r hr
    · exact hzero.trans (sub_self input.amount).symm
  · obtain ⟨r, hr, hid⟩ := h.allocations a ha
    exact ⟨r, hcreate.mpr (.inl hr), hid⟩
  · rcases hcreate.mp hr with hr | rfl
    · exact h.pending r hr hpending
    · rfl
  · rcases hcreate.mp hr with hr | rfl
    · exact h.settled r hr
    · exact .inl ⟨rfl, rfl⟩
  · exact (h.payments p hp).congr rfl fun r hr => ⟨r, hcreate.mpr (.inl hr), rfl, rfl⟩

/-- A charge that is paid is settled. -/
theorem MerchantReceivable.Settled.pay {r : MerchantReceivable} {amount : Int}
    (hbound : r.amountOpen ≤ r.amountOriginal) (hpos : 0 < amount) : (r.pay amount).Settled := by
  refine .inr ⟨?_, rfl⟩
  simp only [MerchantReceivable.pay]
  omega

theorem ChargeLedger.pay (h : ChargeLedger db) (happlied : Applicable db.receivables q.applied) (hq : q.Faithful []) :
    ChargeLedger (q.writes db) := by
  obtain ⟨hpayments, hallocations⟩ := q.payments_writes db
  have hcreate := fun {x} => @Table.mem_create _ _ db.payments (newPayment q.input q.amount) (fun _ => rfl) x
  have hnew : ∀ a ∈ db.allocations, a.paymentId ≠ db.payments.nextKey := fun a ha heq => by
    obtain ⟨p, hp, hid⟩ := h.paid a ha
    exact absurd (hid.trans heq) (Nat.ne_of_lt (Table.key_lt_nextKey hp))
  have hrows : ∀ a ∈ (q.writes db).allocations, a ∈ db.allocations ∨
      ∃ x ∈ q.applied, a.paymentId = db.payments.nextKey ∧ a.receivableId = x.1.id := by
    intro a ha
    rw [hallocations] at ha
    have hkey : ∀ x k, HasKey.key (allocationRow db.payments.nextKey x k) = k := fun _ _ => rfl
    rcases Table.mem_foldl_create hkey ha with ha | ⟨x, hx, k, rfl⟩
    · exact .inl ha
    · exact .inr ⟨x, hx, rfl, rfl⟩
  have hstays : ∀ r ∈ db.receivables, ∃ r' ∈ (q.writes db).receivables, r'.id = r.id ∧ r'.currency = r.currency := by
    intro r hr
    obtain ⟨r', hr', hid, -, hcurrency⟩ := exists_mem_payAll happlied hr
    exact ⟨r', receivables_writes q db ▸ hr', hid, hcurrency⟩
  refine ⟨h.toReceivableBooks.writes happlied, fun r hr => ?_, fun p hp => ?_, fun a ha => ?_⟩
  · have hsettled : ∀ r ∈ payAll db.receivables q.applied, r.Settled ∧ r.amountOpen ≤ r.amountOriginal := by
      refine forall_mem_payAll (fun r amount hr hpos _ => ⟨.pay hr.2 hpos, ?_⟩) happlied fun r hr =>
        ⟨h.settled r hr, (h.bounds r hr).2⟩
      simp only [MerchantReceivable.pay]
      have hbound := hr.2
      omega
    exact (hsettled r (receivables_writes q db ▸ hr)).1
  · rw [hpayments] at hp
    rcases hcreate.mp hp with hp | rfl
    · have hother : db.payments.nextKey ≠ p.id := Nat.ne_of_gt (Table.key_lt_nextKey hp)
      refine ⟨?_, fun a ha hid => ?_⟩
      · rw [allocatedBy_writes, if_neg hother, add_zero]
        exact (h.payments p hp).amount
      · rcases hrows a ha with ha | ⟨x, -, hpayment, -⟩
        · obtain ⟨r, hr, hra, hcurrency⟩ := (h.payments p hp).currency a ha hid
          obtain ⟨r', hr', hid', hcurrency'⟩ := hstays r hr
          exact ⟨r', hr', hid'.trans hra, hcurrency' ▸ hcurrency⟩
        · exact absurd (hpayment.symm.trans hid) hother
    · refine ⟨?_, fun a ha hid => ?_⟩
      · have hnone : db.allocatedBy db.payments.nextKey = 0 :=
          Table.total_eq_zero fun a ha => if_neg (hnew a ha)
        have hsum := allocatedBy_writes q db db.payments.nextKey
        rw [if_pos rfl, hnone, zero_add, hq.sum_applied] at hsum
        exact hsum
      · rcases hrows a ha with ha | ⟨x, hx, -, hreceivable⟩
        · exact absurd hid (hnew a ha)
        · obtain ⟨r, hr, hrx, hcurrency⟩ := happlied.exists_currency hx
          obtain ⟨r', hr', hid', hcurrency'⟩ := hstays r hr
          refine ⟨r', hr', (hid'.trans hrx).trans hreceivable.symm, ?_⟩
          rw [hcurrency', hcurrency]
          exact hq.currency x hx
  · rw [hpayments]
    rcases hrows a ha with ha | ⟨x, -, hpayment, -⟩
    · obtain ⟨p, hp, hid⟩ := h.paid a ha
      exact ⟨p, hcreate.mpr (.inl hp), hid⟩
    · exact ⟨newPayment q.input q.amount db.payments.nextKey, hcreate.mpr (.inr rfl), hpayment.symm⟩

theorem ChargeLedger.issue (h : ChargeLedger db) {rows : List MerchantReceivable} {invoice : MerchantInvoice}
    (he : IssueEffect db rows invoice db') (hpayments : db'.payments = db.payments) : ChargeLedger db' := by
  have hbefore : ∀ x ∈ db'.receivables, ∃ r ∈ db.receivables, r = x ∨ x = r.tie invoice.id := by
    intro x hx
    rcases (he.mem_receivables x).mp hx with ⟨r, hr, rfl⟩ | ⟨hx, -⟩
    · exact ⟨r, (he.billed r hr).1, .inr rfl⟩
    · exact ⟨x, hx, .inl rfl⟩
  have hstays : ∀ r ∈ db.receivables, ∃ r' ∈ db'.receivables, r'.id = r.id ∧ r'.currency = r.currency := by
    intro r hr
    by_cases hin : ∃ r' ∈ rows, r.id = r'.id
    · obtain ⟨r', hr', hid⟩ := hin
      obtain rfl : r = r' := Table.eq_of_key_eq hr (he.billed r' hr').1 hid
      exact ⟨r.tie invoice.id, (he.mem_receivables _).mpr (.inl ⟨r, hr', rfl⟩), rfl, rfl⟩
    · exact ⟨r, (he.mem_receivables r).mpr (.inr ⟨hr, fun r' hr' hid => hin ⟨r', hr', hid⟩⟩), rfl, rfl⟩
  refine ⟨⟨fun x hx => ?_, fun x hx => ?_, fun a ha => ?_, fun x hx hpending => ?_⟩, fun x hx => ?_, fun p hp => ?_,
    fun a ha => ?_⟩
  · obtain ⟨r, hr, rfl | rfl⟩ := hbefore x hx <;> exact h.bounds r hr
  · unfold BillingDb.allocatedTo
    rw [he.allocations]
    obtain ⟨r, hr, rfl | rfl⟩ := hbefore x hx <;> exact h.allocated r hr
  · obtain ⟨r, hr, hid⟩ := h.allocations a (he.allocations ▸ ha)
    obtain ⟨r', hr', hid', -⟩ := hstays r hr
    exact ⟨r', hr', hid'.trans hid⟩
  · obtain ⟨r, hr, rfl | rfl⟩ := hbefore x hx <;> exact h.pending r hr hpending
  · obtain ⟨r, hr, rfl | rfl⟩ := hbefore x hx <;> exact h.settled r hr
  · exact (h.payments p (hpayments ▸ hp)).congr he.allocations hstays
  · rw [hpayments]
    exact h.paid a (he.allocations ▸ ha)

/-- **Every write keeps the ledger.** -/
theorem ChargeLedger.write (hwrite : ChargeCase s s') (h : ChargeLedger s.billing) : ChargeLedger s'.billing := by
  cases hwrite with
  | kept => exact h
  | charged hamount => exact h.charge hamount
  | paid happlied hq => exact h.pay happlied hq
  | issued hissuable hok =>
    obtain ⟨heffect, -⟩ := issueLocked_effect hissuable hok
    exact h.issue heffect (issueLocked_frame hissuable hok).1

/-- What the ledger says of a charge of a positive amount. -/
structure SaysWhatIsOpen (db : BillingDb) (r : MerchantReceivable) : Prop where
  amountOpen : r.amountOpen = r.amountOriginal - db.allocatedTo r.id
  nonneg : 0 ≤ r.amountOpen
  paid_iff : r.status = .paid ↔ r.amountOpen = 0
  partiallyPaid_iff : r.status = .partiallyPaid ↔ 0 < db.allocatedTo r.id ∧ db.allocatedTo r.id < r.amountOriginal

theorem ChargeLedger.saysWhatIsOpen (h : ChargeLedger db) {r : MerchantReceivable} (hr : r ∈ db.receivables)
    (hpos : 0 < r.amountOriginal) : SaysWhatIsOpen db r := by
  obtain ⟨hnonneg, hbound⟩ := h.bounds r hr
  have hallocated := h.allocated r hr
  rcases h.settled r hr with ⟨hopen, hstatus⟩ | ⟨hopen, hstatus⟩
  · refine ⟨by omega, hnonneg, ?_, ?_⟩
    · rw [hstatus]
      exact iff_of_false nofun (by omega)
    · rw [hstatus]
      exact iff_of_false nofun (by omega)
  · by_cases hzero : r.amountOpen = 0
    · rw [if_pos hzero] at hstatus
      refine ⟨by omega, hnonneg, iff_of_true hstatus hzero, ?_⟩
      rw [hstatus]
      exact iff_of_false nofun (by omega)
    · rw [if_neg hzero] at hstatus
      refine ⟨by omega, hnonneg, ?_, iff_of_true hstatus (by omega)⟩
      rw [hstatus]
      exact iff_of_false nofun hzero

end Ledger

/-! ## In every run -/

section Runs

variable {issuedAt : Nat → Instant} {MERCHANT_BILLING_DUE_DAYS : Int} {ok : Sessions ChargeDb ChargePoint → ChargeAct → Prop}
  {S : Sessions ChargeDb ChargePoint}

/-- A payment writes everything at its commit, and nothing before. -/
theorem writes_of_paying {w : Nat} {p : PaymentPoint} {answer : ChargeAnswer} {S' : Sessions ChargeDb ChargePoint}
    (hfind : S.find? w = some (.paying p))
    (h : (chargeMachine issuedAt MERCHANT_BILLING_DUE_DAYS).step S (.go w answer) = some S') :
    S'.committed = S.committed ∨ (p.next (p.writes S.committed.billing) = .commit ∧ S'.active = S.others w ∧
      S'.committed = { S.committed with billing := p.writes S.committed.billing }) := by
  have hcase : (chargeWorkers issuedAt MERCHANT_BILLING_DUE_DAYS).StepCase S (.go w answer) S' := Workers.step_cases h
  have hnext : ∀ {store q}, ChargePoint.next issuedAt MERCHANT_BILLING_DUE_DAYS (.paying p) answer S.committed =
      some (store, q) → store = S.committed ∨ (p.next (p.writes S.committed.billing) = .commit ∧ q = none ∧
        store = { S.committed with billing := p.writes S.committed.billing }) := by
    intro store q hnext
    unfold ChargePoint.next at hnext
    cases herror : answer.error with
    | some e =>
      rw [herror] at hnext
      exact .inl (Prod.mk.inj (Option.some.inj hnext)).1.symm
    | none =>
      rw [herror] at hnext
      unfold ChargePoint.nextPaying at hnext
      dsimp only at hnext
      cases hpoint : p.next (p.writes S.committed.billing) with
      | goto p' =>
        rw [hpoint] at hnext
        exact .inl (Prod.mk.inj (Option.some.inj hnext)).1.symm
      | commit =>
        rw [hpoint] at hnext
        obtain ⟨rfl, rfl⟩ := Prod.mk.inj (Option.some.inj hnext)
        exact .inr ⟨rfl, rfl, rfl⟩
      | rollback =>
        rw [hpoint] at hnext
        exact .inl (Prod.mk.inj (Option.some.inj hnext)).1.symm
  cases hcase with
  | moved hfound hgo _ =>
    obtain rfl := Option.some.inj (hfind.symm.trans hfound)
    rcases hnext hgo with hsame | ⟨-, hnone, -⟩
    · exact .inl hsame
    · cases hnone
  | done hfound hgo =>
    obtain rfl := Option.some.inj (hfind.symm.trans hfound)
    exact (hnext hgo).imp_right fun hcommit => ⟨hcommit.1, rfl, hcommit.2.2⟩

/-- **The ledger holds in every run**, and a payment that fails leaves everything as it was: each of its statements
but the commit writes nothing, whether it succeeds or not, and so does its death. -/
theorem ledger_of_reachable (h : (chargeMachine issuedAt MERCHANT_BILLING_DUE_DAYS).Reachable ok S) :
    (∀ r ∈ S.committed.billing.receivables, 0 < r.amountOriginal → SaysWhatIsOpen S.committed.billing r) ∧
      (∀ p ∈ S.committed.billing.payments, AllocatedInFull S.committed.billing p) ∧
      ∀ w p, S.find? w = some (.paying p) →
        (∀ S', (chargeMachine issuedAt MERCHANT_BILLING_DUE_DAYS).step S (.die w) = some S' →
          S'.committed = S.committed) ∧
        ∀ answer S', (chargeMachine issuedAt MERCHANT_BILLING_DUE_DAYS).step S (.go w answer) = some S' →
          S'.committed = S.committed ∨ (p.next (p.writes S.committed.billing) = .commit ∧ S'.active = S.others w ∧
            S'.committed = { S.committed with billing := p.writes S.committed.billing }) := by
  have hledger : ChargeLedger S.committed.billing :=
    ChargeCase.invariant (I := fun s => ChargeLedger s.billing) (fun _ hblank => hblank.ledger)
      (fun _ _ hwrite hs => hs.write hwrite) h
  refine ⟨fun r hr hpos => hledger.saysWhatIsOpen hr hpos, hledger.payments, fun w p hfind => ⟨fun S' hdie => ?_,
    fun answer S' hgo => writes_of_paying hfind hgo⟩⟩
  have hcase : (chargeWorkers issuedAt MERCHANT_BILLING_DUE_DAYS).StepCase S (.die w) S' := Workers.step_cases hdie
  cases hcase with
  | died => rfl

end Runs

/-! ## Two payments of two charges -/

section Example

def sinCargos : ChargeDb where
  billing := ⟨[⟨1, "Comisión MDR", "MDR"⟩], .empty, .empty, .empty, .empty, .empty⟩
  runs := .empty
  issues := []

theorem sinCargos_blank : sinCargos.Blank := ⟨rfl, rfl, rfl, rfl, rfl, rfl, rfl⟩

/-- A charge of 50.00 to merchant 7. -/
def cargoDe50 (sourceId : Nat) : ChargeDto := ⟨7, "MDR", some sourceId, none, 5000, "BOB", 30⟩

/-- Statements that find `order`, and do not fail. -/
def sentenciasDe (w statements : Nat) (order : List Nat) : List ChargeAct :=
  List.replicate statements (.go w ⟨order, ⟨1300, "FAC-CM-2026-0001", .ok ()⟩, none⟩)

/-- One payment allocates twice to the first charge; another allocates to the second charge, and then more than is
left of the first. -/
def dosPagos : Sessions ChargeDb ChargePoint :=
  (chargeMachine (fun _ => 0) 30).after ⟨sinCargos, []⟩ ([.outside (cargoDe50 1), .outside (cargoDe50 2),
    .start 1 (.registerMerchantPayment ⟨7, 3000, "BOB", 0, none, none, [⟨1, 2000⟩, ⟨1, 1000⟩]⟩),
    .start 2 (.registerMerchantPayment ⟨7, 7001, "BOB", 0, none, none, [⟨2, 5000⟩, ⟨1, 2001⟩]⟩)] ++
      sentenciasDe 2 2 [] ++ sentenciasDe 1 5 [] ++ sentenciasDe 2 1 [])

theorem ledger_of_reachable_dosPagos :
    (dosPagos.active.length = 0 ∧ dosPagos.committed.billing.payments.rows.length = 1 ∧
      dosPagos.committed.billing.receivables.rows.map (fun r => (r.amountOpen, r.status)) =
        [(2000, .partiallyPaid), (5000, .pending)]) ∧
    (∀ r ∈ dosPagos.committed.billing.receivables, 0 < r.amountOriginal →
        SaysWhatIsOpen dosPagos.committed.billing r) ∧
      ∀ p ∈ dosPagos.committed.billing.payments, AllocatedInFull dosPagos.committed.billing p := by
  have hreached : (chargeMachine (fun _ => 0) 30).Reachable (fun _ _ => True) dosPagos :=
    (chargeMachine (fun _ => 0) 30).reachable_after ⟨sinCargos_blank, rfl⟩ _
  obtain ⟨hopen, hpayments, -⟩ := ledger_of_reachable hreached
  exact ⟨by decide, hopen, hpayments⟩

end Example

end AtlasErp
