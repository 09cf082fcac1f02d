import AtlasErp.Billing.ChargeLedger
import AtlasErp.Billing.InvoicedOnce
import AtlasErp.Fiscal.Annulment
import AtlasErp.Fiscal.Packages

/-! # Annulled invoices

A payment under way holds a charge of every invoice whose status it writes, and an annulment needs the charges of its
invoice; so no payment brings an annulled invoice back.

- `CobroCase`, `cobroCase_of_next`: all that a statement of the charges can write;
- `AnulacionesBien`: an invoice is cancelled exactly when an annulment of it was committed, and then no charge is its;
- `Avanza`: what no step takes back;
- `annulled_invoices`: so it is in every run, and what an annulment releases is as it was charged when no payment of
  the invoice commits between its count and its end. -/

namespace AtlasErp

open Lib

/-! ## What the statements of the charges write -/

section Charges

variable {db db' : BillingDb} {s s' : ChargeDb} {k : Nat}

/-- The invoice is there, and cancelled. -/
def BillingDb.Cancelled (db : BillingDb) (k : Nat) : Prop := ∃ i ∈ db.invoices, i.id = k ∧ i.status = .cancelled

/-- The statuses that a payment wrote, or is about to, are not CANCELLED. -/
def PaymentPoint.NoneCancelled : PaymentPoint → Prop
  | .begin _ => True
  | .allocating q _ | .refreshing q _ | .deciding q _ _ _ => ∀ x ∈ q.refreshed, x.2 ≠ some .cancelled
  | .updating q _ status _ => status ≠ .cancelled ∧ ∀ x ∈ q.refreshed, x.2 ≠ some .cancelled

def ChargePoint.NoneCancelled : ChargePoint → Prop
  | .paying p => p.NoneCancelled
  | _ => True

theorem PaymentPoint.noneCancelled_of_leads {p p' : PaymentPoint} (h : PaymentPoint.Leads db p p')
    (hp : p.NoneCancelled) : p'.NoneCancelled := by
  have hsnoc : ∀ {refreshed : List (Nat × Option InvoiceStatus)} {x : Nat × Option InvoiceStatus},
      (∀ y ∈ refreshed, y.2 ≠ some .cancelled) → x.2 ≠ some .cancelled →
        ∀ y ∈ refreshed ++ [x], y.2 ≠ some .cancelled := by
    intro refreshed x hall hx y hy
    rcases List.mem_append.mp hy with hy | hy
    · exact hall y hy
    · exact List.mem_singleton.mp hy ▸ hx
  cases h with
  | checked => exact fun _ hx => absurd hx List.not_mem_nil
  | allocated | allAllocated | read => exact hp
  | skipped => exact hsnoc hp nofun
  | decided => exact ⟨paymentStatusOf_ne_cancelled _, hp⟩
  | updated => exact hsnoc hp.2 fun heq => hp.1 (Option.some.inj heq)

/-- What a payment commits: it writes the statuses of the invoices it touched, and no CANCELLED one. -/
structure PaymentProgress.Commits (q : PaymentProgress) (db : BillingDb) : Prop where
  applicable : Applicable db.receivables q.applied
  faithful : q.Faithful []
  touched : ∀ x ∈ q.refreshed, x.1 ∈ touchedBy q.applied
  noneCancelled : ∀ x ∈ q.refreshed, x.2 ≠ some .cancelled

/-- All that a statement of the charges can write. -/
inductive CobroCase (s : ChargeDb) : ChargePoint → ChargeDb → Prop where
  | kept {p : ChargePoint} {s' : ChargeDb} (billing : s'.billing = s.billing) (issues : s'.issues = s.issues) :
      CobroCase s p s'
  | paid {q : PaymentProgress} (commits : q.Commits s.billing) :
      CobroCase s (.paying (.refreshing q [])) { s with billing := q.writes s.billing }
  | issued {p : ChargePoint} {input : IssueInvoiceDto} {context : IssueContext} {rows : List MerchantReceivable}
      {invoice : MerchantInvoice} {billing : BillingDb} (issuable : Issuable s.billing rows)
      (ok : issueLocked s.billing input context rows = .ok (invoice, billing)) :
      CobroCase s p { s with billing, issues := s.issues ++ [⟨invoice.id, rows⟩] }

theorem cobroCase_paying {p : PaymentPoint} (hrelies : (ChargePoint.paying p).Relies s) (hnone : p.NoneCancelled) :
    CobroCase s (.paying p) (ChargePoint.nextPaying p s).1 ∧ ∀ p' ∈ (ChargePoint.nextPaying p s).2, p'.NoneCancelled := by
  obtain ⟨⟨happlicable, hordered⟩, hfaithful⟩ := hrelies
  unfold ChargePoint.nextPaying
  cases hnext : p.next (p.writes s.billing) with
  | goto p' =>
    refine ⟨.kept rfl rfl, fun p'' hp'' => ?_⟩
    obtain rfl := Option.some.inj hp''
    exact PaymentPoint.noneCancelled_of_leads (PaymentPoint.leads_of_next hnext) hnone
  | commit =>
    obtain ⟨q, rfl⟩ := PaymentPoint.refreshing_of_commit hnext
    refine ⟨.paid ⟨happlicable, hfaithful, fun x hx => ?_, hnone⟩, fun p' hp' => absurd hp' (Option.not_mem_none p')⟩
    exact (hordered x.1).mpr (.inl (List.mem_map_of_mem hx))
  | rollback => exact ⟨.kept rfl rfl, fun p' hp' => absurd hp' (Option.not_mem_none p')⟩

/-- After a batch of a run, the run goes on. -/
theorem IssueCall.noneCancelled (call : IssueCall) {f : Tanda × CorridaEnCurso → CorridaEnCurso} :
    ∀ p' ∈ call.corrida.map fun x => ChargePoint.emitting (f x), p'.NoneCancelled := by
  intro p' hp'
  obtain ⟨x, -, rfl⟩ := Option.map_eq_some_iff.mp hp'
  trivial

theorem cobroCase_issuing {call : IssueCall} {stage : IssueStage} {answer : ChargeAnswer} {q : Option ChargePoint}
    (hrelies : stage.Relies s.billing) (h : ChargePoint.nextIssuing call answer s stage = some (s', q)) :
    CobroCase s (.issuing call stage) s' ∧ ∀ p' ∈ q, p'.NoneCancelled := by
  have hsame : ∀ {p : ChargePoint}, CobroCase s p s := .kept rfl rfl
  have hissuing : ∀ {stage' : IssueStage}, ∀ p' ∈ some (ChargePoint.issuing call stage'), p'.NoneCancelled := by
    intro stage' p' hp'
    obtain rfl := Option.some.inj hp'
    trivial
  unfold ChargePoint.nextIssuing at h
  split at h
  · split at h
    · cases h
      exact ⟨hsame, hissuing⟩
    · cases h
  · split at h <;> cases h <;> exact ⟨hsame, hissuing⟩
  · split at h <;> cases h
    · exact ⟨hsame, hissuing⟩
    · exact ⟨hsame, call.noneCancelled⟩
  · rename_i rows
    cases hissue : issueLocked s.billing call.input answer.context rows with
    | error e =>
      rw [hissue] at h
      cases h
      exact ⟨hsame, call.noneCancelled⟩
    | ok result =>
      rw [hissue] at h
      cases h
      exact ⟨.issued hrelies hissue, call.noneCancelled⟩

theorem cobroCase_claiming (opciones : OpcionesCorrida) (s : ChargeDb) :
    CobroCase s (.claiming opciones) (ChargePoint.nextClaiming opciones s).1 ∧
      ∀ p' ∈ (ChargePoint.nextClaiming opciones s).2, p'.NoneCancelled := by
  unfold ChargePoint.nextClaiming
  dsimp only
  split
  · exact ⟨.kept rfl rfl, fun p' hp' => absurd hp' (Option.not_mem_none p')⟩
  · refine ⟨.kept rfl rfl, fun p' hp' => ?_⟩
    obtain rfl := Option.some.inj hp'
    trivial

theorem cobroCase_emitting {MERCHANT_BILLING_DUE_DAYS : Int} (corrida : CorridaEnCurso) (s : ChargeDb) :
    CobroCase s (.emitting corrida) (ChargePoint.nextEmitting MERCHANT_BILLING_DUE_DAYS corrida s).1 ∧
      ∀ p' ∈ (ChargePoint.nextEmitting MERCHANT_BILLING_DUE_DAYS corrida s).2, p'.NoneCancelled := by
  unfold ChargePoint.nextEmitting
  split
  · refine ⟨.kept rfl rfl, fun p' hp' => ?_⟩
    obtain rfl := Option.some.inj hp'
    trivial
  · exact ⟨.kept rfl rfl, fun p' hp' => absurd hp' (Option.not_mem_none p')⟩

/-- **All that a statement of the charges can write.** -/
theorem cobroCase_of_next {issuedAt : Nat → Instant} {MERCHANT_BILLING_DUE_DAYS : Int} {p : ChargePoint}
    {answer : ChargeAnswer} {q : Option ChargePoint} (hrelies : p.Relies s) (hnone : p.NoneCancelled)
    (h : p.next issuedAt MERCHANT_BILLING_DUE_DAYS answer s = some (s', q)) :
    CobroCase s p s' ∧ ∀ p' ∈ q, p'.NoneCancelled := by
  have hsame : ∀ {p : ChargePoint}, CobroCase s p s := .kept rfl rfl
  have hend : ∀ p' ∈ (none : Option ChargePoint), p'.NoneCancelled := fun p' hp' => absurd hp' (Option.not_mem_none p')
  unfold ChargePoint.next at h
  split at h
  · split at h <;> cases h
    · exact ⟨hsame, IssueCall.noneCancelled _⟩
    · exact ⟨hsame, hend⟩
  · cases p with
    | paying p =>
      obtain ⟨rfl, rfl⟩ := Prod.mk.inj (Option.some.inj h)
      exact cobroCase_paying hrelies hnone
    | issuing call stage => exact cobroCase_issuing hrelies h
    | claiming opciones =>
      obtain ⟨rfl, rfl⟩ := Prod.mk.inj (Option.some.inj h)
      exact cobroCase_claiming opciones s
    | listing runId hoy =>
      obtain ⟨rfl, rfl⟩ := Prod.mk.inj (Option.some.inj h)
      refine ⟨hsame, fun p' hp' => ?_⟩
      obtain rfl := Option.some.inj hp'
      trivial
    | emitting corrida =>
      obtain ⟨rfl, rfl⟩ := Prod.mk.inj (Option.some.inj h)
      exact cobroCase_emitting corrida s

/-! ## Which invoices are cancelled -/

theorem cancelled_setInvoiceStatus {j : Nat} {status : InvoiceStatus} (hstatus : status ≠ .cancelled)
    (hj : ¬db.Cancelled j) : (db.setInvoiceStatus j status).Cancelled k ↔ db.Cancelled k := by
  have hupdate := fun {i} => @Table.mem_updateWhere _ _ db.invoices (·.id = j)
    (fun i : MerchantInvoice => { i with status }) (fun _ => rfl) i
  constructor
  · rintro ⟨i', hi', hid, hcancelled⟩
    obtain ⟨i, hi, rfl⟩ := hupdate.mp hi'
    split at hid
    · exact absurd hcancelled (by rw [if_pos ‹_›]; exact hstatus)
    · rename_i hne
      rw [if_neg hne] at hcancelled
      exact ⟨i, hi, hid, hcancelled⟩
  · rintro ⟨i, hi, hid, hcancelled⟩
    refine ⟨_, hupdate.mpr ⟨i, hi, rfl⟩, ?_⟩
    have hne : ¬decide (i.id = j) = true := fun heq => hj ⟨i, hi, of_decide_eq_true heq, hcancelled⟩
    rw [if_neg hne]
    exact ⟨hid, hcancelled⟩

theorem cancelled_writeStatuses {refreshed : List (Nat × Option InvoiceStatus)}
    (hnone : ∀ x ∈ refreshed, x.2 ≠ some .cancelled) (hlive : ∀ x ∈ refreshed, ¬db.Cancelled x.1) :
    (PaymentProgress.writeStatuses db refreshed).Cancelled k ↔ db.Cancelled k := by
  induction refreshed generalizing db with
  | nil => exact Iff.rfl
  | cons x refreshed ih =>
    obtain ⟨j, status⟩ := x
    have hnone' := fun y hy => hnone y (List.mem_cons_of_mem _ hy)
    cases status with
    | none => exact ih hnone' fun y hy => hlive y (List.mem_cons_of_mem _ hy)
    | some status =>
      have hset : ∀ k, (db.setInvoiceStatus j status).Cancelled k ↔ db.Cancelled k := fun k =>
        cancelled_setInvoiceStatus (fun heq => hnone _ List.mem_cons_self (congrArg some heq))
          (hlive _ List.mem_cons_self)
      refine (ih hnone' fun y hy hy' => ?_).trans (hset k)
      exact hlive y (List.mem_cons_of_mem _ hy) ((hset y.1).mp hy')

/-- A payment holds a charge of every invoice whose status it writes, so it writes none that is cancelled. -/
theorem PaymentProgress.Commits.live {q : PaymentProgress} (hq : q.Commits db)
    (hempty : ∀ k, db.Cancelled k → ∀ r ∈ db.receivables, r.invoiceId ≠ some k) :
    ∀ x ∈ q.refreshed, ¬db.Cancelled x.1 := by
  intro x hx hcancelled
  obtain ⟨y, hy, hinvoice⟩ := mem_touchedBy.mp (hq.touched x hx)
  obtain ⟨r, hr, -, hr'⟩ := hq.applicable.home hy
  exact hempty x.1 hcancelled r hr (hr'.trans hinvoice)

theorem cancelled_writes {q : PaymentProgress} (hq : q.Commits db)
    (hempty : ∀ k, db.Cancelled k → ∀ r ∈ db.receivables, r.invoiceId ≠ some k) :
    (q.writes db).Cancelled k ↔ db.Cancelled k := by
  have hinvoices := (receivables_allocate db.payments.nextKey
    { db with payments := db.payments.create (newPayment q.input q.amount) } q.applied).2
  have hsame : ∀ k, (PaymentProgress.allocate db.payments.nextKey
      { db with payments := db.payments.create (newPayment q.input q.amount) } q.applied).Cancelled k ↔ db.Cancelled k :=
    fun k => by unfold BillingDb.Cancelled; rw [hinvoices]
  refine (cancelled_writeStatuses hq.noneCancelled fun x hx hx' => ?_).trans (hsame k)
  exact hq.live hempty x hx ((hsame x.1).mp hx')

theorem cancelled_issue {rows : List MerchantReceivable} {invoice : MerchantInvoice}
    (h : IssueEffect db rows invoice db') : db'.Cancelled k ↔ db.Cancelled k := by
  constructor
  · rintro ⟨i, hi, hid, hcancelled⟩
    rcases (h.mem_invoices i).mp hi with hi | rfl
    · exact ⟨i, hi, hid, hcancelled⟩
    · rw [h.status] at hcancelled
      cases hcancelled
  · rintro ⟨i, hi, hid, hcancelled⟩
    exact ⟨i, (h.mem_invoices i).mpr (.inl hi), hid, hcancelled⟩

/-- An annulment cancels its invoice. -/
theorem cancelled_cancelar {j : Nat} : (db.cancelar j).Cancelled k ↔
    db.Cancelled k ∨ (k = j ∧ ∃ i ∈ db.invoices, i.id = k) := by
  have hupdate := fun {i} => @Table.mem_updateWhere _ _ db.invoices (·.id = j)
    (fun i : MerchantInvoice => { i with status := .cancelled }) (fun _ => rfl) i
  constructor
  · rintro ⟨i', hi', hid, hcancelled⟩
    obtain ⟨i, hi, rfl⟩ := hupdate.mp hi'
    split at hid
    · rename_i heq
      exact .inr ⟨hid.symm.trans (of_decide_eq_true heq), i, hi, hid⟩
    · rename_i hne
      rw [if_neg hne] at hcancelled
      exact .inl ⟨i, hi, hid, hcancelled⟩
  · intro h
    have hcase : ∃ i ∈ db.invoices, i.id = k ∧ (i.status = .cancelled ∨ k = j) := by
      rcases h with ⟨i, hi, hid, hcancelled⟩ | ⟨hk, i, hi, hid⟩
      · exact ⟨i, hi, hid, .inl hcancelled⟩
      · exact ⟨i, hi, hid, .inr hk⟩
    obtain ⟨i, hi, hid, hcase⟩ := hcase
    refine ⟨_, hupdate.mpr ⟨i, hi, rfl⟩, ?_⟩
    split
    · exact ⟨hid, rfl⟩
    · rename_i hne
      refine ⟨hid, hcase.resolve_right fun hk => hne (decide_eq_true (hid.trans hk))⟩

/-! ## What an annulment writes of the charges -/

theorem mem_cancelar {j : Nat} {x : MerchantReceivable} : x ∈ (db.cancelar j).receivables ↔
    (x ∈ db.receivables ∧ x.invoiceId ≠ some j) ∨ ∃ r ∈ db.receivables, r.invoiceId = some j ∧ x = r.untie := by
  have hupdate := @Table.mem_updateWhere _ _ db.receivables (·.invoiceId = some j) MerchantReceivable.untie
    (fun _ => rfl) x
  refine hupdate.trans ⟨?_, ?_⟩
  · rintro ⟨r, hr, rfl⟩
    split
    · exact .inr ⟨r, hr, of_decide_eq_true ‹_›, rfl⟩
    · exact .inl ⟨hr, fun heq => absurd (decide_eq_true heq) ‹_›⟩
  · rintro (⟨hx, hne⟩ | ⟨r, hr, hinvoice, rfl⟩)
    · exact ⟨x, hx, if_neg fun heq => hne (of_decide_eq_true heq)⟩
    · exact ⟨r, hr, if_pos (decide_eq_true hinvoice)⟩

/-- The ledger does not look at the invoices of the charges. -/
theorem ChargeLedger.cancelar (h : ChargeLedger db) (j : Nat) : ChargeLedger (db.cancelar j) := by
  have hbefore : ∀ x ∈ (db.cancelar j).receivables, ∃ r ∈ db.receivables, r = x ∨ x = r.untie := fun x hx => by
    rcases mem_cancelar.mp hx with ⟨hx, -⟩ | ⟨r, hr, -, rfl⟩
    · exact ⟨x, hx, .inl rfl⟩
    · exact ⟨r, hr, .inr rfl⟩
  have hstays : ∀ r ∈ db.receivables, ∃ r' ∈ (db.cancelar j).receivables, r'.id = r.id ∧ r'.currency = r.currency :=
    fun r hr => by
      by_cases hinvoice : r.invoiceId = some j
      · exact ⟨r.untie, mem_cancelar.mpr (.inr ⟨r, hr, hinvoice, rfl⟩), rfl, rfl⟩
      · exact ⟨r, mem_cancelar.mpr (.inl ⟨hr, hinvoice⟩), rfl, rfl⟩
  refine ⟨⟨fun x hx => ?_, fun x hx => ?_, fun a ha => ?_, fun x hx hpending => ?_⟩, fun x hx => ?_,
    fun p hp => (h.payments p hp).congr rfl hstays, h.paid⟩
  · obtain ⟨r, hr, rfl | rfl⟩ := hbefore x hx <;> exact h.bounds r hr
  · obtain ⟨r, hr, rfl | rfl⟩ := hbefore x hx <;> exact h.allocated r hr
  · obtain ⟨r, hr, hid⟩ := h.allocations a ha
    obtain ⟨r', hr', hid', -⟩ := hstays r hr
    exact ⟨r', hr', hid'.trans hid⟩
  · obtain ⟨r, hr, rfl | rfl⟩ := hbefore x hx <;> exact h.pending r hr hpending
  · obtain ⟨r, hr, rfl | rfl⟩ := hbefore x hx <;> exact h.settled r hr

theorem exists_invoice_cancelar {j : Nat} :
    (∃ i ∈ (db.cancelar j).invoices, i.id = k) ↔ ∃ i ∈ db.invoices, i.id = k := by
  have hupdate := fun {i} => @Table.mem_updateWhere _ _ db.invoices (·.id = j)
    (fun i : MerchantInvoice => { i with status := .cancelled }) (fun _ => rfl) i
  constructor
  · rintro ⟨i', hi', hid⟩
    obtain ⟨i, hi, rfl⟩ := hupdate.mp hi'
    exact ⟨i, hi, by split at hid <;> exact hid⟩
  · rintro ⟨i, hi, hid⟩
    exact ⟨_, hupdate.mpr ⟨i, hi, rfl⟩, by split <;> exact hid⟩

/-! ## What the others write of the charges -/

/-- What a write of the charges does: to the ledger, to the invoices, and to the charges of each. -/
structure Cobrado (s s' : ChargeDb) : Prop where
  ledger : ChargeLedger s.billing → ChargeLedger s'.billing
  cancelled : ∀ k, s'.billing.Cancelled k ↔ s.billing.Cancelled k
  invoice : ∀ k, (∃ i ∈ s.billing.invoices, i.id = k) → ∃ i ∈ s'.billing.invoices, i.id = k
  stays : ∀ r ∈ s.billing.receivables, ∀ k, r.invoiceId = some k →
    ∃ r' ∈ s'.billing.receivables, r'.id = r.id ∧ r'.invoiceId = some k
  /-- A charge is of the invoice it was of, or of a new one. -/
  tied : ∀ r' ∈ s'.billing.receivables, ∀ k, r'.invoiceId = some k →
    (∃ r ∈ s.billing.receivables, r.id = r'.id ∧ r.invoiceId = some k) ∨
      ((∀ i ∈ s.billing.invoices, i.id ≠ k) ∧ ∃ i ∈ s'.billing.invoices, i.id = k)
  issues : ∀ issue ∈ s'.issues, issue ∈ s.issues ∨
    ∀ id ∈ issue.ids, ∃ r ∈ s'.billing.receivables, r.id = id ∧ r.invoiceId = some issue.invoiceId

theorem Cobrado.kept (hbilling : s'.billing = s.billing) (hissues : s'.issues = s.issues) : Cobrado s s' := by
  refine ⟨?_, ?_, ?_, ?_, ?_, fun issue hissue => .inl (hissues ▸ hissue)⟩ <;> rw [hbilling]
  · exact id
  · exact fun _ => Iff.rfl
  · exact fun _ => id
  · exact fun r hr k hk => ⟨r, hr, rfl, hk⟩
  · exact fun r hr k hk => .inl ⟨r, hr, rfl, hk⟩

theorem Cobrado.charged {input : ChargeDto} (hamount : 0 ≤ input.amount) : Cobrado s { s with
    billing := { s.billing with receivables := s.billing.receivables.create (newReceivable input) } } := by
  have hcreate := fun {x} => @Table.mem_create _ _ s.billing.receivables (newReceivable input) (fun _ => rfl) x
  refine ⟨fun h => h.charge hamount, fun _ => Iff.rfl, fun _ => id, fun r hr k hk => ⟨r, hcreate.mpr (.inl hr), rfl, hk⟩,
    fun r hr k hk => ?_, fun issue hissue => .inl hissue⟩
  rcases hcreate.mp hr with hr | rfl
  · exact .inl ⟨r, hr, rfl, hk⟩
  · cases hk

theorem Cobrado.paid {q : PaymentProgress} (hq : q.Commits s.billing)
    (hempty : ∀ k, s.billing.Cancelled k → ∀ r ∈ s.billing.receivables, r.invoiceId ≠ some k) :
    Cobrado s { s with billing := q.writes s.billing } := by
  refine ⟨fun h => h.pay hq.applicable hq.faithful, fun k => cancelled_writes hq hempty,
    fun k => ((q.invoices_writes s.billing).2 k).mpr, fun r hr k hk => ?_, fun r hr k hk => .inl ?_,
    fun issue hissue => .inl hissue⟩
  · obtain ⟨r', hr', hid, hinvoice, -⟩ := exists_mem_payAll hq.applicable hr
    exact ⟨r', receivables_writes q s.billing ▸ hr', hid, hinvoice.trans hk⟩
  · have hbefore := forall_mem_payAll (P := fun r => ∃ x ∈ s.billing.receivables, x.id = r.id ∧ x.invoiceId = r.invoiceId)
      (fun _ _ hr _ _ => hr) hq.applicable fun r hr => ⟨r, hr, rfl, rfl⟩
    obtain ⟨x, hx, hid, hinvoice⟩ := hbefore r (receivables_writes q s.billing ▸ hr)
    exact ⟨x, hx, hid, hinvoice.trans hk⟩

theorem Cobrado.issued {input : IssueInvoiceDto} {context : IssueContext} {rows : List MerchantReceivable}
    {invoice : MerchantInvoice} {billing : BillingDb} (hissuable : Issuable s.billing rows)
    (hok : issueLocked s.billing input context rows = .ok (invoice, billing)) :
    Cobrado s { s with billing, issues := s.issues ++ [⟨invoice.id, rows⟩] } := by
  obtain ⟨heffect, -⟩ := issueLocked_effect hissuable hok
  have htied : ∀ r ∈ rows, r.tie invoice.id ∈ billing.receivables := fun r hr =>
    (heffect.mem_receivables _).mpr (.inl ⟨r, hr, rfl⟩)
  refine ⟨fun h => h.issue heffect (issueLocked_frame hissuable hok).1, fun k => cancelled_issue heffect,
    fun k ⟨i, hi, hid⟩ => ⟨i, (heffect.mem_invoices i).mpr (.inl hi), hid⟩, fun r hr k hk => ?_, fun x hx k hk => ?_,
    fun issue hissue => ?_⟩
  · refine ⟨r, (heffect.mem_receivables r).mpr (.inr ⟨hr, fun r' hr' hid => ?_⟩), rfl, hk⟩
    obtain rfl : r = r' := Table.eq_of_key_eq hr (hissuable.mem r' hr') hid
    rw [hissuable.not_invoiced r hr'] at hk
    cases hk
  · rcases (heffect.mem_receivables x).mp hx with ⟨r, hr, rfl⟩ | ⟨hx, -⟩
    · obtain rfl := Option.some.inj hk
      refine .inr ⟨fun i hi hid => ?_, invoice, (heffect.mem_invoices invoice).mpr (.inr rfl), rfl⟩
      exact absurd (hid.trans heffect.id) (Nat.ne_of_lt (Table.key_lt_nextKey hi))
    · exact .inl ⟨x, hx, rfl, hk⟩
  · rcases List.mem_append.mp hissue with hissue | hissue
    · exact .inl hissue
    · obtain rfl := List.mem_singleton.mp hissue
      refine .inr fun id hid => ?_
      obtain ⟨r, hr, rfl⟩ := List.mem_map.mp hid
      exact ⟨r.tie invoice.id, htied r hr, rfl, rfl⟩

/-- **What any statement of the charges does**, as long as no charge is of a cancelled invoice. -/
theorem CobroCase.cobrado {p : ChargePoint} (h : CobroCase s p s')
    (hempty : ∀ k, s.billing.Cancelled k → ∀ r ∈ s.billing.receivables, r.invoiceId ≠ some k) : Cobrado s s' := by
  cases h with
  | kept hbilling hissues => exact .kept hbilling hissues
  | paid hq => exact .paid hq hempty
  | issued hissuable hok => exact .issued hissuable hok

end Charges

/-! ## What annulments leave -/

section Store

variable {c : AnulacionConfig} {s s' : AnulacionDb} {fiscal : EstadoFiscal} {p : PuntoSiat} {q : Option PuntoSiat}
  {copia d d' : DocumentoSiat} {k : Nat}

/-- The processors leave the invoice of a document, and whether it was annulled. -/
theorem Escritura.factura (h : Escritura s.fiscal p d d') : d'.factura = d.factura ∧ d'.annulledAt = d.annulledAt := by
  cases h with
  | adelantado =>
    unfold DocumentoSiat.adelantado
    split <;> exact ⟨rfl, rfl⟩
  | veredictos =>
    exact aplicarVeredictos_induction (P := fun fila => fila.factura = d.factura ∧ fila.annulledAt = d.annulledAt)
      (fun _ _ _ _ _ h => h) ⟨rfl, rfl⟩
  | _ => exact ⟨rfl, rfl⟩

/-- An invoice is cancelled exactly when an annulment of it was committed, the authority had annulled it, and no charge is
its any more. -/
structure AnulacionesBien (s : AnulacionDb) : Prop where
  ledger : ChargeLedger s.cobros.billing
  vacias : ∀ k, s.cobros.billing.Cancelled k → ∀ r ∈ s.cobros.billing.receivables, r.invoiceId ≠ some k
  /-- A charge that was issued is of that invoice until it is cancelled. -/
  cargos : ∀ issue ∈ s.cobros.issues, ∀ id ∈ issue.ids, s.cobros.billing.Cancelled issue.invoiceId ∨
    ∃ r ∈ s.cobros.billing.receivables, r.id = id ∧ r.invoiceId = some issue.invoiceId
  enlaces : ∀ r ∈ s.cobros.billing.receivables, ∀ k, r.invoiceId = some k → ∃ i ∈ s.cobros.billing.invoices, i.id = k
  documentos : ∀ d ∈ s.fiscal.documents, ∀ k, d.factura = some k → ∃ i ∈ s.cobros.billing.invoices, i.id = k
  anulados : ∀ d ∈ s.fiscal.documents, d.annulledAt ≠ none ↔ ∃ a ∈ s.anulaciones, a.documentId = d.id
  origen : ∀ a ∈ s.anulaciones, a.cuf ∈ s.anuladas ∧
    ∃ d ∈ s.fiscal.documents, d.id = a.documentId ∧ d.factura = a.invoiceId
  canceladas : ∀ k, s.cobros.billing.Cancelled k ↔ ∃ a ∈ s.anulaciones, a.invoiceId = some k

/-- What no step takes back. -/
structure Avanza (s s' : AnulacionDb) : Prop where
  documento : ∀ d ∈ s.fiscal.documents, ∃ d' ∈ s'.fiscal.documents, d'.id = d.id ∧ d'.factura = d.factura ∧
    (d.annulledAt ≠ none → d'.annulledAt ≠ none)
  invoice : ∀ k, (∃ i ∈ s.cobros.billing.invoices, i.id = k) → ∃ i ∈ s'.cobros.billing.invoices, i.id = k
  /-- No charge comes to an invoice that was there. -/
  enlace : ∀ r' ∈ s'.cobros.billing.receivables, ∀ k, (∃ i ∈ s.cobros.billing.invoices, i.id = k) →
    r'.invoiceId = some k → ∃ r ∈ s.cobros.billing.receivables, r.id = r'.id ∧ r.invoiceId = some k
  anuladas : s.anuladas ⊆ s'.anuladas
  anulaciones : s.anulaciones <+: s'.anulaciones

theorem Avanza.refl (s : AnulacionDb) : Avanza s s where
  documento d hd := ⟨d, hd, rfl, rfl, id⟩
  invoice _ := id
  enlace r hr _ _ hk := ⟨r, hr, rfl, hk⟩
  anuladas := List.Subset.refl _
  anulaciones := List.prefix_rfl

theorem AnulacionDb.Blank.bien (h : s.Blank) : AnulacionesBien s := by
  have hdocuments : ∀ d, d ∉ s.fiscal.documents := fun d => h.fiscal.1 ▸ Table.not_mem_empty d
  have hreceivables : ∀ r, r ∉ s.cobros.billing.receivables := fun r => h.cobros.receivables ▸ Table.not_mem_empty r
  have hinvoices : ∀ i, i ∉ s.cobros.billing.invoices := fun i => h.cobros.invoices ▸ Table.not_mem_empty i
  have hanulaciones : ∀ a, a ∉ s.anulaciones := fun a => h.anulaciones ▸ List.not_mem_nil
  have hissues : ∀ issue, issue ∉ s.cobros.issues := fun issue => h.cobros.issues ▸ List.not_mem_nil
  exact ⟨h.cobros.ledger, fun _ _ r hr => absurd hr (hreceivables r), fun issue hissue => absurd hissue (hissues issue),
    fun r hr => absurd hr (hreceivables r), fun d hd => absurd hd (hdocuments d), fun d hd => absurd hd (hdocuments d),
    fun a ha => absurd ha (hanulaciones a),
    fun k => iff_of_false (fun ⟨i, hi, _⟩ => hinvoices i hi) fun ⟨a, ha, _⟩ => hanulaciones a ha⟩

/-- Neither the documents nor the charges change, and the authority takes nothing back. -/
theorem AnulacionesBien.congr (h : AnulacionesBien s) (hdocuments : s'.fiscal.documents = s.fiscal.documents)
    (hcobros : s'.cobros = s.cobros) (hanuladas : s.anuladas ⊆ s'.anuladas) (hanulaciones : s'.anulaciones = s.anulaciones) :
    AnulacionesBien s' ∧ Avanza s s' := by
  refine ⟨⟨?_, ?_, ?_, ?_, ?_, ?_, ?_, ?_⟩, ?_, ?_, ?_, hanuladas, hanulaciones ▸ List.prefix_rfl⟩ <;>
    simp only [hdocuments, hcobros, hanulaciones]
  · exact h.ledger
  · exact h.vacias
  · exact h.cargos
  · exact h.enlaces
  · exact h.documentos
  · exact h.anulados
  · exact fun a ha => ⟨hanuladas (h.origen a ha).1, (h.origen a ha).2⟩
  · exact h.canceladas
  · exact (Avanza.refl s).documento
  · exact (Avanza.refl s).invoice
  · exact (Avanza.refl s).enlace

/-- **A step of the fiscal queue**, of documents whose invoices are there. -/
theorem AnulacionesBien.pasa (h : AnulacionesBien s) (hpasa : Pasa c.toSiatConfig s.fiscal p fiscal q)
    (hp : ∀ fila, p = .insertada fila → ∀ k, fila.factura = some k → ∃ i ∈ s.cobros.billing.invoices, i.id = k) :
    AnulacionesBien { s with fiscal } ∧ Avanza s { s with fiscal } := by
  have hforward : ∀ d ∈ s.fiscal.documents, ∃ d' ∈ fiscal.documents, d'.id = d.id ∧ d'.factura = d.factura ∧
      d'.annulledAt = d.annulledAt := fun d hd => by
    obtain ⟨d', hd', hescritura⟩ := documento_escrito hpasa hd
    exact ⟨d', hd', congrArg Prod.fst hescritura.identidad, hescritura.factura⟩
  refine ⟨⟨h.ledger, h.vacias, h.cargos, h.enlaces, fun d' hd' k hk => ?_, fun d' hd' => ?_, fun a ha => ?_, h.canceladas⟩,
    fun d hd => ?_, fun _ => id, fun r hr _ _ hk => ⟨r, hr, rfl, hk⟩, List.Subset.refl _, List.prefix_rfl⟩
  · rcases documentos_pasa hpasa d' hd' with ⟨d, hd, hescritura⟩ | ⟨fila, hfila, rfl⟩
    · exact h.documentos d hd k (hescritura.factura.1 ▸ hk)
    · exact hp fila hfila k hk
  · rcases documentos_pasa hpasa d' hd' with ⟨d, hd, hescritura⟩ | ⟨fila, -, rfl⟩
    · have hid : d'.id = d.id := congrArg Prod.fst hescritura.identidad
      rw [hescritura.factura.2, hid]
      exact h.anulados d hd
    · refine iff_of_false (not_not.mpr rfl) ?_
      rintro ⟨a, ha, hid⟩
      obtain ⟨-, d, hd, hida, -⟩ := h.origen a ha
      exact absurd (hida.trans hid) (Nat.ne_of_lt (Table.key_lt_nextKey hd))
  · obtain ⟨hcuf, d, hd, hid, hfactura⟩ := h.origen a ha
    obtain ⟨d', hd', hid', hfactura', -⟩ := hforward d hd
    exact ⟨hcuf, d', hd', hid'.trans hid, hfactura'.trans hfactura⟩
  · obtain ⟨d', hd', hid, hfactura, hannulled⟩ := hforward d hd
    exact ⟨d', hd', hid, hfactura, fun hne => hannulled ▸ hne⟩

/-- **A write of the charges.** -/
theorem AnulacionesBien.cobra (h : AnulacionesBien s) {cobros : ChargeDb} (hcobra : Cobrado s.cobros cobros) :
    AnulacionesBien { s with cobros } ∧ Avanza s { s with cobros } := by
  refine ⟨⟨hcobra.ledger h.ledger, fun k hk r hr hrk => ?_, fun issue hissue id hid => ?_, fun r hr k hk => ?_,
    fun d hd k hk => hcobra.invoice k (h.documentos d hd k hk), h.anulados, h.origen,
    fun k => (hcobra.cancelled k).trans (h.canceladas k)⟩, fun d hd => ⟨d, hd, rfl, rfl, id⟩, hcobra.invoice,
    fun r hr k hk hrk => ?_, List.Subset.refl _, List.prefix_rfl⟩
  · have hk' : s.cobros.billing.Cancelled k := (hcobra.cancelled k).mp hk
    rcases hcobra.tied r hr k hrk with ⟨r₀, hr₀, -, hrk₀⟩ | ⟨hnew, -⟩
    · exact h.vacias k hk' r₀ hr₀ hrk₀
    · obtain ⟨i, hi, hid, -⟩ := hk'
      exact hnew i hi hid
  · rcases hcobra.issues issue hissue with hissue | htied
    · rcases h.cargos issue hissue id hid with hcancelled | ⟨r, hr, hrid, hrk⟩
      · exact .inl ((hcobra.cancelled _).mpr hcancelled)
      · obtain ⟨r', hr', hrid', hrk'⟩ := hcobra.stays r hr _ hrk
        exact .inr ⟨r', hr', hrid'.trans hrid, hrk'⟩
    · exact .inr (htied id hid)
  · rcases hcobra.tied r hr k hk with ⟨r₀, hr₀, -, hrk₀⟩ | ⟨-, hinvoice⟩
    · exact hcobra.invoice k (h.enlaces r₀ hr₀ k hrk₀)
    · exact hinvoice
  · rcases hcobra.tied r hr k hrk with ⟨r₀, hr₀, hid, hrk₀⟩ | ⟨hnew, -⟩
    · exact ⟨r₀, hr₀, hid, hrk₀⟩
    · obtain ⟨i, hi, hid⟩ := hk
      exact absurd hid (hnew i hi)

/-- What the transaction of an annulment does to the charges: those of its invoice are of none. -/
structure Liberado (db db' : BillingDb) (factura : Option Nat) : Prop where
  ledger : ChargeLedger db → ChargeLedger db'
  cancelled : ∀ k, db'.Cancelled k ↔ db.Cancelled k ∨ (factura = some k ∧ ∃ i ∈ db.invoices, i.id = k)
  invoice : ∀ k, (∃ i ∈ db'.invoices, i.id = k) ↔ ∃ i ∈ db.invoices, i.id = k
  receivables : ∀ x, x ∈ db'.receivables ↔ (x ∈ db.receivables ∧ ∀ k, factura = some k → x.invoiceId ≠ some k) ∨
    ∃ r ∈ db.receivables, ∃ k, factura = some k ∧ r.invoiceId = some k ∧ x = r.untie

/-- What an annulment that commits writes. -/
theorem anularEn_eq_some {codigoMotivo : Nat} {mensajes : List SiatMensaje}
    (h : anularEn s copia codigoMotivo mensajes = some s') :
    s'.fiscal.documents = s.fiscal.documents.updateWhere (HasKey.key · = copia.id)
        (aplicarAnulacion s.fiscal.now copia codigoMotivo mensajes) ∧
      Liberado s.cobros.billing s'.cobros.billing copia.factura ∧ s'.cobros.issues = s.cobros.issues ∧
      s'.anuladas = s.anuladas ∧
      s'.anulaciones = s.anulaciones ++ [⟨copia.id, copia.cuf, copia.factura, cargosDe s.cobros.billing copia⟩] := by
  obtain ⟨fiscal, hfiscal, rfl⟩ := Option.map_eq_some_iff.mp h
  obtain ⟨rfl, -⟩ := conDocumentos_eq_some hfiscal
  refine ⟨rfl, ?_, ?_, rfl, rfl⟩ <;> cases copia.factura with
  | none => ?_
  | some j => ?_
  · refine ⟨id, fun k => ⟨.inl, fun h => h.resolve_right fun h => by cases h.1⟩, fun _ => Iff.rfl, fun x => ?_⟩
    exact ⟨fun hx => .inl ⟨hx, nofun⟩, fun hx => (hx.resolve_right fun ⟨_, _, _, h, _⟩ => by cases h).1⟩
  · refine ⟨fun h => h.cancelar j, fun k => cancelled_cancelar.trans ?_, fun k => exists_invoice_cancelar, fun x =>
      mem_cancelar.trans ?_⟩
    · rw [Option.some.injEq, eq_comm]
    · constructor
      · rintro (⟨hx, hne⟩ | ⟨r, hr, hinvoice, rfl⟩)
        · exact .inl ⟨hx, fun k hk => Option.some.inj hk ▸ hne⟩
        · exact .inr ⟨r, hr, j, rfl, hinvoice, rfl⟩
      · rintro (⟨hx, hne⟩ | ⟨r, hr, k, hk, hinvoice, rfl⟩)
        · exact .inl ⟨hx, hne j rfl⟩
        · obtain rfl := Option.some.inj hk
          exact .inr ⟨r, hr, hinvoice, rfl⟩
  · rfl
  · rfl

/-- The row of the copy that an annulment holds. -/
def FilaDe (s : AnulacionDb) (copia : DocumentoSiat) : Prop :=
  ∃ d ∈ s.fiscal.documents, d.id = copia.id ∧ d.factura = copia.factura ∧
    (copia.annulledAt ≠ none → d.annulledAt ≠ none)

theorem FilaDe.mono (h : FilaDe s copia) (havanza : Avanza s s') : FilaDe s' copia := by
  obtain ⟨d, hd, hid, hfactura, hannulled⟩ := h
  obtain ⟨d', hd', hid', hfactura', hannulled'⟩ := havanza.documento d hd
  exact ⟨d', hd', hid'.trans hid, hfactura'.trans hfactura, hannulled' ∘ hannulled⟩

/-- What an annulment writes in the row of a document. -/
theorem aplicarAnulacion_columnas {now : Instant} {codigoMotivo : Nat} {mensajes : List SiatMensaje}
    (h : copia.annulledAt ≠ none → d.annulledAt ≠ none) :
    (aplicarAnulacion now copia codigoMotivo mensajes d).id = d.id ∧
      (aplicarAnulacion now copia codigoMotivo mensajes d).factura = d.factura ∧
      (aplicarAnulacion now copia codigoMotivo mensajes d).annulledAt ≠ none := by
  refine ⟨rfl, rfl, ?_⟩
  change cambio copia.annulledAt (some now) d.annulledAt ≠ none
  unfold cambio
  split
  · rename_i heq
    exact h (heq ▸ Option.some_ne_none now)
  · exact Option.some_ne_none now

/-- The documents stay, and none is annulled less. -/
theorem documento_anulado {codigoMotivo : Nat} {mensajes : List SiatMensaje} {fila : DocumentoSiat}
    (hanula : anularEn s copia codigoMotivo mensajes = some s') (hfila : fila ∈ s.fiscal.documents)
    (hid : fila.id = copia.id) (hannulled : copia.annulledAt ≠ none → fila.annulledAt ≠ none)
    (hd : d ∈ s.fiscal.documents) : ∃ d' ∈ s'.fiscal.documents, d'.id = d.id ∧ d'.factura = d.factura ∧
      (d.annulledAt ≠ none → d'.annulledAt ≠ none) := by
  have hupdate := fun {x} => @Table.mem_updateWhere _ _ s.fiscal.documents (HasKey.key · = copia.id)
    (aplicarAnulacion s.fiscal.now copia codigoMotivo mensajes) (fun _ => rfl) x
  rw [(anularEn_eq_some hanula).1]
  refine ⟨_, hupdate.mpr ⟨d, hd, rfl⟩, ?_⟩
  split
  · rename_i hkey
    obtain rfl : d = fila := Table.eq_of_key_eq hd hfila ((of_decide_eq_true hkey).trans hid.symm)
    obtain ⟨hid', hfactura', hne⟩ := @aplicarAnulacion_columnas copia d s.fiscal.now codigoMotivo mensajes hannulled
    exact ⟨hid', hfactura', fun _ => hne⟩
  · exact ⟨rfl, rfl, id⟩

/-- **The transaction of an annulment**, of an invoice that the authority annulled. -/
theorem AnulacionesBien.anula (h : AnulacionesBien s) {codigoMotivo : Nat} {mensajes : List SiatMensaje}
    (hfila : FilaDe s copia) (hcuf : copia.cuf ∈ s.anuladas) (hanula : anularEn s copia codigoMotivo mensajes = some s') :
    AnulacionesBien s' ∧ Avanza s s' := by
  obtain ⟨hdocuments, hlibera, hissues, hanuladas, hanulaciones⟩ := anularEn_eq_some hanula
  obtain ⟨fila, hmem, hid, hfactura, hannulled⟩ := hfila
  have hupdate := fun {x} => @Table.mem_updateWhere _ _ s.fiscal.documents (HasKey.key · = copia.id)
    (aplicarAnulacion s.fiscal.now copia codigoMotivo mensajes) (fun _ => rfl) x
  rw [← hdocuments] at hupdate
  have hwritten : ∀ d ∈ s.fiscal.documents, d.id = copia.id → d = fila := fun d hd hd' =>
    Table.eq_of_key_eq hd hmem (hd'.trans hid.symm)
  have hforward : ∀ d ∈ s.fiscal.documents, ∃ d' ∈ s'.fiscal.documents, d'.id = d.id ∧ d'.factura = d.factura ∧
      (d.annulledAt ≠ none → d'.annulledAt ≠ none) := fun d hd => documento_anulado hanula hmem hid hannulled hd
  have hinvoice : ∀ k, copia.factura = some k → ∃ i ∈ s.cobros.billing.invoices, i.id = k := fun k hk =>
    h.documentos fila hmem k (hfactura.trans hk)
  refine ⟨⟨hlibera.ledger h.ledger, fun k hk r hr hrk => ?_, fun issue hissue id hid => ?_, fun r hr k hk => ?_,
    fun d' hd' k hk => ?_, fun d' hd' => ?_, fun a ha => ?_, fun k => ?_⟩, fun d hd => ?_,
    fun k => (hlibera.invoice k).mpr, fun r hr k _ hk => ?_, hanuladas ▸ List.Subset.refl _,
    hanulaciones ▸ List.prefix_append _ _⟩
  · rcases (hlibera.receivables r).mp hr with ⟨hr, hother⟩ | ⟨r, -, j, -, -, rfl⟩
    · rcases (hlibera.cancelled k).mp hk with hk | ⟨hk, -⟩
      · exact h.vacias k hk r hr hrk
      · exact hother k hk hrk
    · cases hrk
  · rcases h.cargos issue (hissues ▸ hissue) id hid with hcancelled | ⟨r, hr, hrid, hrk⟩
    · exact .inl ((hlibera.cancelled _).mpr (.inl hcancelled))
    · by_cases hk : copia.factura = some issue.invoiceId
      · exact .inl ((hlibera.cancelled _).mpr (.inr ⟨hk, hinvoice _ hk⟩))
      · refine .inr ⟨r, (hlibera.receivables r).mpr (.inl ⟨hr, fun k hk' hrk' => hk ?_⟩), hrid, hrk⟩
        exact hk'.trans (hrk'.symm.trans hrk)
  · rcases (hlibera.receivables r).mp hr with ⟨hr, -⟩ | ⟨r, -, j, -, -, rfl⟩
    · exact (hlibera.invoice k).mpr (h.enlaces r hr k hk)
    · cases hk
  · obtain ⟨d, hd, rfl⟩ := hupdate.mp hd'
    refine (hlibera.invoice k).mpr (h.documentos d hd k ?_)
    split at hk <;> exact hk
  · obtain ⟨d, hd, rfl⟩ := hupdate.mp hd'
    rw [hanulaciones]
    split
    · rename_i hkey
      obtain rfl := hwritten d hd (of_decide_eq_true hkey)
      obtain ⟨-, -, hne⟩ := @aplicarAnulacion_columnas copia d s.fiscal.now codigoMotivo mensajes hannulled
      exact iff_of_true hne ⟨_, List.mem_append_right _ (List.mem_singleton.mpr rfl), (of_decide_eq_true hkey).symm⟩
    · rename_i hkey
      refine (h.anulados d hd).trans ⟨fun ⟨a, ha, haid⟩ => ⟨a, List.mem_append_left _ ha, haid⟩, ?_⟩
      rintro ⟨a, ha, haid⟩
      rcases List.mem_append.mp ha with ha | ha
      · exact ⟨a, ha, haid⟩
      · obtain rfl := List.mem_singleton.mp ha
        exact absurd (decide_eq_true haid.symm) hkey
  · rw [hanulaciones] at ha
    rcases List.mem_append.mp ha with ha | ha
    · obtain ⟨hacuf, d, hd, hdid, hdfactura⟩ := h.origen a ha
      obtain ⟨d', hd', hdid', hdfactura', -⟩ := hforward d hd
      exact ⟨hanuladas ▸ hacuf, d', hd', hdid'.trans hdid, hdfactura'.trans hdfactura⟩
    · obtain rfl := List.mem_singleton.mp ha
      obtain ⟨d', hd', hdid', hdfactura', -⟩ := hforward fila hmem
      exact ⟨hanuladas ▸ hcuf, d', hd', hdid'.trans hid, hdfactura'.trans hfactura⟩
  · rw [hlibera.cancelled k, h.canceladas k, hanulaciones]
    constructor
    · rintro (⟨a, ha, hak⟩ | ⟨hk, -⟩)
      · exact ⟨a, List.mem_append_left _ ha, hak⟩
      · exact ⟨_, List.mem_append_right _ (List.mem_singleton.mpr rfl), hk⟩
    · rintro ⟨a, ha, hak⟩
      rcases List.mem_append.mp ha with ha | ha
      · exact .inl ⟨a, ha, hak⟩
      · obtain rfl := List.mem_singleton.mp ha
        exact .inr ⟨hak, hinvoice k hak⟩
  · exact hforward d hd
  · rcases (hlibera.receivables r).mp hr with ⟨hr, -⟩ | ⟨r, -, j, -, -, rfl⟩
    · exact ⟨r, hr, rfl, hk⟩
    · cases hk

end Store

/-! ## Every step -/

section Steps

variable {c : AnulacionConfig} {s s' : AnulacionDb} {copia : DocumentoSiat}

/-- What an annulment relies on: the row of its copy, the word of the authority, and the charges that it locked. -/
def PuntoAnulacion.Cumple (s : AnulacionDb) : PuntoAnulacion → Prop
  | .contando copia _ | .conCodigos copia _ | .porLlamar copia _ | .esperando copia _ => FilaDe s copia
  | .confirmada copia _ _ => FilaDe s copia ∧ copia.cuf ∈ s.anuladas
  | .liberando copia _ _ cargos => FilaDe s copia ∧ copia.cuf ∈ s.anuladas ∧
      ∀ r ∈ s.cobros.billing.receivables, ∀ k, copia.factura = some k → r.invoiceId = some k → r.id ∈ cargos

/-- What a worker relies on. -/
def PuntoConjunto.Cumple (s : AnulacionDb) : PuntoConjunto → Prop
  | .fiscal p => ∀ fila, p = .insertada fila → ∀ k, fila.factura = some k → ∃ i ∈ s.cobros.billing.invoices, i.id = k
  | .cobro p => p.Relies s.cobros ∧ p.NoneCancelled
  | .anulacion p => p.Cumple s

theorem PuntoAnulacion.Cumple.mono {p : PuntoAnulacion} (h : p.Cumple s) (hbien : AnulacionesBien s)
    (havanza : Avanza s s') : p.Cumple s' := by
  cases p with
  | contando | conCodigos | porLlamar | esperando => exact FilaDe.mono h havanza
  | confirmada => exact ⟨h.1.mono havanza, havanza.anuladas h.2⟩
  | liberando copia codigoMotivo mensajes cargos =>
    obtain ⟨hfila, hcuf, hcargos⟩ := h
    refine ⟨hfila.mono havanza, havanza.anuladas hcuf, fun r hr k hk hrk => ?_⟩
    obtain ⟨d, hd, -, hfactura, -⟩ := hfila
    obtain ⟨r₀, hr₀, hid, hrk₀⟩ := havanza.enlace r hr k (hbien.documentos d hd k (hfactura.trans hk)) hrk
    exact hid ▸ hcargos r₀ hr₀ k hk hrk₀

/-- What a worker does next: it keeps the store right, and writes only the charges that it holds. -/
structure PasoBien (s : AnulacionDb) (p : PuntoConjunto) (s' : AnulacionDb) (q : Option PuntoConjunto) : Prop where
  bien : AnulacionesBien s'
  avanza : Avanza s s'
  next : ∀ p' ∈ q, p'.Cumple s'
  guarded : ∀ k, .inr k ∉ p.recursos → k.keeps s.cobros.billing s'.cobros.billing

/-- A worker that writes nothing. -/
theorem PasoBien.same {p : PuntoConjunto} {q : Option PuntoConjunto} (hbien : AnulacionesBien s)
    (hnext : ∀ p' ∈ q, p'.Cumple s) : PasoBien s p s q :=
  ⟨hbien, .refl s, hnext, fun k _ => k.keeps_refl _⟩

theorem forall_map_some {p : PuntoAnulacion} (hp : p.Cumple s) :
    ∀ p' ∈ (some p).map PuntoConjunto.anulacion, p'.Cumple s := by
  intro p' hp'
  obtain rfl := Option.some.inj hp'
  exact hp

/-- A document is inserted for an invoice that is there. -/
theorem insertada_of_seguir {p : PuntoSiat} {entrada : EntradaSiat} {fiscal : EstadoFiscal} {fila : FiscalDocument}
    (hposible : emisionPosible s p entrada = true)
    (h : seguir c.toSiatConfig s.fiscal p entrada = some (fiscal, some (.insertada fila))) :
    ∀ k, fila.factura = some k → ∃ i ∈ s.cobros.billing.invoices, i.id = k := by
  have hpreparada : ∃ preparada, p = .preparada preparada := by
    have hpasa := pasa_of_next h
    generalize hq : some (PuntoSiat.insertada fila) = q at hpasa
    cases hpasa <;> first | cases hq | skip
    case habia para _ _ => cases para <;> cases hq
    case creado para _ _ => cases para <;> cases hq
    case habiaOtro para _ _ => cases para <;> cases hq
    exact ⟨_, rfl⟩
  obtain ⟨preparada, rfl⟩ := hpreparada
  cases entrada with
  | documento documento =>
    unfold seguir at h
    dsimp only at h
    split at h
    · rename_i hemitida
      cases h
      obtain ⟨totales, serie, -, hfila⟩ := emitirEnTransaccion_eq_ok hemitida
      obtain ⟨cuf, -, -, -, -, -, hsource, hid, -⟩ := filaFiscal_eq_ok hfila
      intro k hk
      unfold FiscalDocument.factura at hk
      split at hk
      · rename_i hmerchant
        obtain rfl := Option.some.inj hk
        obtain ⟨i, hi⟩ := Option.isSome_iff_exists.mp (of_decide_eq_true hposible (hsource.symm.trans hmerchant))
        obtain ⟨hmem, hkey⟩ := Table.find?_eq_some.mp hi
        exact ⟨i, hmem, hkey.trans hid.symm⟩
      · cases hk
    · cases h
  | _ => cases h

/-- **What an annulment does next.** -/
theorem pasoBien_anulacion {p : PuntoAnulacion} {entrada : EntradaAnulacion} {q : Option PuntoAnulacion}
    (hbien : AnulacionesBien s) (hp : p.Cumple s) (h : seguirAnulacion s p entrada = some (s', q)) :
    PasoBien s (.anulacion p) s' (q.map .anulacion) := by
  have hend : ∀ p' ∈ (none : Option PuntoConjunto), p'.Cumple s := fun p' hp' => absurd hp' (Option.not_mem_none p')
  unfold seguirAnulacion at h
  split at h
  · cases h
    refine .same hbien ?_
    split
    · exact hend
    · exact forall_map_some hp
  · split at h
    · rename_i fiscal cufd hcufd
      cases h
      have hdocuments : fiscal.documents = s.fiscal.documents := by
        obtain ⟨perfilId, -, hvigente⟩ := Option.bind_eq_some_iff.mp hcufd
        rcases cufdVigente_eq_some hvigente with ⟨rfl, -⟩ | ⟨r, -, -, hguardado⟩
        · rfl
        · obtain rfl : (guardarCufd s.fiscal perfilId r).1 = fiscal := congrArg Prod.fst hguardado
          rfl
      obtain ⟨hbien', havanza⟩ : AnulacionesBien { s with fiscal } ∧ Avanza s { s with fiscal } :=
        hbien.congr hdocuments rfl (List.Subset.refl _) rfl
      exact ⟨hbien', havanza, forall_map_some (FilaDe.mono hp havanza), fun k _ => k.keeps_refl _⟩
    · cases h
      exact .same hbien hend
  · rename_i copia codigoMotivo
    cases h
    let s' : AnulacionDb := { s with solicitudes := s.solicitudes ++ [copia.cuf] }
    obtain ⟨hbien', havanza⟩ : AnulacionesBien s' ∧ Avanza s s' := hbien.congr rfl rfl (List.Subset.refl _) rfl
    exact ⟨hbien', havanza, forall_map_some (FilaDe.mono hp havanza), fun k _ => k.keeps_refl _⟩
  · cases h
    exact .same hbien hend
  · split at h
    · rename_i hposible
      cases h
      refine .same hbien ?_
      split
      · exact forall_map_some ⟨hp, of_decide_eq_true hposible ‹_›⟩
      · exact hend
    · cases h
  · rename_i copia codigoMotivo mensajes
    cases h
    refine .same hbien (forall_map_some ⟨hp.1, hp.2, fun r hr k hk hrk => ?_⟩)
    have hmem : r ∈ cargosDe s.cobros.billing copia := by
      rw [cargosDe, hk]
      exact Table.mem_rowsWhere.mpr ⟨hr, decide_eq_true hrk⟩
    exact List.mem_map_of_mem hmem
  · rename_i copia codigoMotivo mensajes cargos
    cases h
    obtain ⟨hfila, hcuf, hcargos⟩ := hp
    cases hanula : anularEn s copia codigoMotivo mensajes with
    | none => exact .same hbien hend
    | some s' =>
      obtain ⟨hbien', havanza⟩ := hbien.anula hfila hcuf hanula
      refine ⟨hbien', havanza, fun p' hp' => absurd hp' (Option.not_mem_none p'), fun k hk => ?_⟩
      cases k with
      | invoice => trivial
      | receivable id =>
        rintro r rfl
        obtain ⟨-, hlibera, -⟩ := anularEn_eq_some hanula
        -- a charge that is not held is not of the invoice
        have hother : ∀ x : MerchantReceivable, x.id = r.id → x ∈ s.cobros.billing.receivables → ∀ k,
            copia.factura = some k → x.invoiceId ≠ some k := fun x hid hx k hfactura hinvoice => by
          have hheld : BillingLock.receivable r.id ∈ (PuntoAnulacion.liberando copia codigoMotivo mensajes cargos).locks :=
            List.mem_append_right _ (List.mem_map_of_mem (hid ▸ hcargos x hx k hfactura hinvoice))
          exact hk (List.mem_map_of_mem hheld)
        change r ∈ s.cobros.billing.receivables ↔ r ∈ s'.cobros.billing.receivables
        rw [hlibera.receivables r]
        refine ⟨fun hr => .inl ⟨hr, hother r rfl hr⟩, ?_⟩
        rintro (⟨hr, -⟩ | ⟨x, hx, k, hfactura, hinvoice, rfl⟩)
        · exact hr
        · exact absurd hinvoice (hother x rfl hx k hfactura)
  · cases h

/-- **What any worker does next.** -/
theorem pasoBien_of_next {p : PuntoConjunto} {entrada : EntradaConjunta} {q : Option PuntoConjunto}
    (hbien : AnulacionesBien s) (hp : p.Cumple s) (h : seguirConjunto c s p entrada = some (s', q)) :
    PasoBien s p s' q := by
  cases p with
  | fiscal p =>
    cases entrada with
    | fiscal entrada =>
      simp only [seguirConjunto] at h
      split at h
      · rename_i hposible
        obtain ⟨⟨fiscal, q'⟩, hseguir, heq⟩ := Option.map_eq_some_iff.mp h
        cases heq
        obtain ⟨hbien', havanza⟩ := hbien.pasa (pasa_of_next hseguir) hp
        refine ⟨hbien', havanza, fun p' hp' => ?_, fun k _ => k.keeps_refl _⟩
        obtain ⟨p', rfl, rfl⟩ := Option.map_eq_some_iff.mp hp'
        rintro fila rfl
        have hinvoice := insertada_of_seguir hposible hseguir
        exact hinvoice
      · cases h
    | _ => cases h
  | cobro p =>
    cases entrada with
    | cobro answer =>
      obtain ⟨⟨cobros, q'⟩, hnext, heq⟩ := Option.map_eq_some_iff.mp h
      cases heq
      obtain ⟨hcase, hnone⟩ := cobroCase_of_next hp.1 hp.2 hnext
      have hspec := ChargePoint.next_spec hp.1 hnext
      obtain ⟨hbien', havanza⟩ := hbien.cobra (hcase.cobrado hbien.vacias)
      refine ⟨hbien', havanza, fun p' hp' => ?_, fun k hk => hspec.guarded k fun hheld => hk (List.mem_map_of_mem hheld)⟩
      obtain ⟨p', hq, rfl⟩ := Option.map_eq_some_iff.mp hp'
      exact ⟨hspec.relies p' hq, hnone p' hq⟩
    | _ => cases h
  | anulacion p =>
    cases entrada with
    | anulacion entrada =>
      obtain ⟨⟨s', q'⟩, hseguir, heq⟩ := Option.map_eq_some_iff.mp h
      cases heq
      exact pasoBien_anulacion hbien hp hseguir
    | _ => cases h

/-- What the others rely on stays: they hold it. -/
theorem PuntoConjunto.Cumple.stable {p x : PuntoConjunto} {q : Option PuntoConjunto} (hx : x.Cumple s)
    (hbien : AnulacionesBien s) (hpaso : PasoBien s p s' q) (hapart : ∀ k ∈ x.recursos, k ∉ p.recursos) : x.Cumple s' := by
  cases x with
  | fiscal x => exact fun fila hfila k hk => hpaso.avanza.invoice k (hx fila hfila k hk)
  | cobro x =>
    refine ⟨ChargePoint.relies_of_keeps (fun k hk => hpaso.guarded k ?_) hx.1, hx.2⟩
    exact hapart (.inr k) (List.mem_map_of_mem hk)
  | anulacion x => exact PuntoAnulacion.Cumple.mono hx hbien hpaso.avanza

/-- A task begins on what it reads. -/
theorem cumple_of_empezar {tarea : TareaConjunta} {p : PuntoConjunto} (h : empezarConjunto c s tarea = some p) :
    p.Cumple s := by
  cases tarea with
  | fiscal tarea =>
    obtain ⟨p, hp, rfl⟩ := Option.map_eq_some_iff.mp h
    rintro fila rfl
    cases empieza_of_empezar hp
  | cobro task =>
    obtain ⟨p, hp, rfl⟩ := Option.map_eq_some_iff.mp h
    cases task with
    | registerMerchantPayment input =>
      obtain rfl := Option.some.inj hp
      exact ⟨⟨⟨trivial, trivial⟩, trivial⟩, trivial⟩
    | _ =>
      obtain rfl := Option.some.inj hp
      exact ⟨trivial, trivial⟩
  | anular documentId codigoMotivo accede =>
    simp only [empezarConjunto] at h
    split at h
    · rename_i copia hcopia
      obtain rfl := Option.some.inj h
      obtain ⟨d, hd, hcopia⟩ := orFail_bind_eq_ok.mp hcopia
      obtain ⟨perfil, -, hcopia⟩ := orFail_bind_eq_ok.mp hcopia
      obtain ⟨-, hcopia⟩ := failIf_bind_eq_ok.mp hcopia
      obtain ⟨-, hcopia⟩ := failIf_bind_eq_ok.mp hcopia
      obtain ⟨-, hcopia⟩ := failIf_bind_eq_ok.mp hcopia
      obtain ⟨-, hcopia⟩ := failIf_bind_eq_ok.mp hcopia
      obtain rfl := pure_eq_ok.mp hcopia
      exact ⟨d, (Table.find?_eq_some.mp hd).1, rfl, rfl, id⟩
    · cases h

/-- What happens outside keeps the store right, and what each worker relies on. -/
theorem bien_of_suceder {suceso : SucesoConjunto} (hbien : AnulacionesBien s)
    (h : sucederConjunto c s suceso = some s') :
    AnulacionesBien s' ∧ Avanza s s' ∧ ∀ x : PuntoConjunto, x.Cumple s → x.Cumple s' := by
  have hcumple : s'.cobros = s.cobros → Avanza s s' → ∀ x : PuntoConjunto, x.Cumple s → x.Cumple s' := by
    intro hcobros havanza x hx
    cases x with
    | fiscal x => exact fun fila hfila k hk => havanza.invoice k (hx fila hfila k hk)
    | cobro x => exact ⟨hcobros ▸ hx.1, hx.2⟩
    | anulacion x => exact PuntoAnulacion.Cumple.mono hx hbien havanza
  have hquiet : s'.fiscal.documents = s.fiscal.documents → s'.cobros = s.cobros → s.anuladas ⊆ s'.anuladas →
      s'.anulaciones = s.anulaciones →
        AnulacionesBien s' ∧ Avanza s s' ∧ ∀ x : PuntoConjunto, x.Cumple s → x.Cumple s' := by
    intro hdocuments hcobros hanuladas hanulaciones
    obtain ⟨hbien', havanza⟩ := hbien.congr hdocuments hcobros hanuladas hanulaciones
    exact ⟨hbien', havanza, hcumple hcobros havanza⟩
  cases suceso with
  | fiscal suceso =>
    obtain ⟨fiscal, hfiscal, rfl⟩ := Option.map_eq_some_iff.mp h
    exact hquiet (suceder_tablas hfiscal).2.1 rfl (List.Subset.refl _) rfl
  | cargo input =>
    obtain ⟨cobros, hcargo, rfl⟩ := Option.map_eq_some_iff.mp h
    obtain ⟨hamount, rfl⟩ := outside_eq_some hcargo
    obtain ⟨hbien', havanza⟩ := hbien.cobra (.charged hamount)
    refine ⟨hbien', havanza, fun x hx => ?_⟩
    cases x with
    | fiscal x => exact fun fila hfila k hk => havanza.invoice k (hx fila hfila k hk)
    | cobro x => exact ⟨ChargePoint.relies_charge hx.1 input, hx.2⟩
    | anulacion x => exact PuntoAnulacion.Cumple.mono hx hbien havanza
  | sirveAnulacion k =>
    obtain ⟨cuf, -, rfl⟩ := Option.map_eq_some_iff.mp h
    exact hquiet rfl rfl (List.subset_append_left _ _) rfl
  | anulaSinPedido cuf =>
    obtain rfl := Option.some.inj h
    exact hquiet rfl rfl (List.subset_append_left _ _) rfl

/-! ## Every run -/

variable {ok : Sessions AnulacionDb PuntoConjunto → ActoConjunto → Prop} {S S' : Sessions AnulacionDb PuntoConjunto}

theorem anulacionWorkers_promises : (anulacionWorkers c).Promises (anulacionWorkers c).Exclusive ok AnulacionesBien
    (fun p s => p.Cumple s) where
  start _ _ hstart := cumple_of_empezar hstart
  next _ hS hfind _ hnext :=
    have hpaso := pasoBien_of_next hS.store (hS.at hfind) hnext
    ⟨hpaso.bien, hpaso.next⟩
  stable {S w _ p _ _} hexclusive hS hfind _ hnext x hx := by
    obtain ⟨hxmem, hne⟩ := Sessions.mem_others.mp hx
    have hapart := hexclusive x hxmem (w, p) (S.mem_of_find? hfind) hne
    exact (hS.worker x hxmem).stable hS.store (pasoBien_of_next hS.store (hS.at hfind) hnext) hapart
  outside _ hS _ hsuceso := by
    obtain ⟨hbien, -, hcumple⟩ := bien_of_suceder hS.store hsuceso
    exact ⟨hbien, fun x hx => hcumple x.2 (hS.worker x hx)⟩

/-- **The store is right**, and so is what each worker relies on, in every reachable state. -/
theorem bien_of_reachable (h : (anulacionMachine c).Reachable ok S) :
    Workers.Keeps AnulacionesBien (fun p s => PuntoConjunto.Cumple s p) S :=
  Workers.keeps anulacionWorkers_promises (fun _ hblank => hblank.bien) (fun _ hS => Workers.exclusive hS) h

/-- No step takes anything back. -/
theorem avanza_of_step {a : ActoConjunto} (hS : Workers.Keeps AnulacionesBien (fun p s => PuntoConjunto.Cumple s p) S)
    (h : (anulacionMachine c).step S a = some S') : Avanza S.committed S'.committed := by
  have hcase : (anulacionWorkers c).StepCase S a S' := Workers.step_cases h
  cases hcase with
  | started => exact .refl _
  | moved hfind hnext _ => exact (pasoBien_of_next hS.store (hS.at hfind) hnext).avanza
  | done hfind hnext => exact (pasoBien_of_next hS.store (hS.at hfind) hnext).avanza
  | died => exact .refl _
  | changed hsuceso => exact (bien_of_suceder hS.store hsuceso).2.1

end Steps

/-! ## What an annulment releases -/

section Released

variable {c : AnulacionConfig} {s s' : AnulacionDb} {S : Sessions AnulacionDb PuntoConjunto} {k : Nat}
  {ok : Sessions AnulacionDb PuntoConjunto → ActoConjunto → Prop}

/-- The invoice of an annulment that counted what was paid of it. -/
def PuntoConjunto.enAnulacion : PuntoConjunto → Option Nat
  | .anulacion (.conCodigos copia _) | .anulacion (.porLlamar copia _) | .anulacion (.esperando copia _)
  | .anulacion (.confirmada copia _ _) | .anulacion (.liberando copia _ _ _) => copia.factura
  | _ => none

/-- The invoices whose charges a payment that commits pays. -/
def PuntoConjunto.cobra : PuntoConjunto → List Nat
  | .cobro (.paying (.refreshing q [])) => touchedBy q.applied
  | _ => []

/-- No payment of an invoice commits between the count of an annulment of it and its end. -/
def SinCobrosEnMedio (S : Sessions AnulacionDb PuntoConjunto) : ActoConjunto → Prop
  | .go w _ => ∀ p ∈ S.find? w, ∀ k ∈ p.cobra, ∀ x ∈ S.active, x.2.enAnulacion ≠ some k
  | _ => True

instance (S : Sessions AnulacionDb PuntoConjunto) : DecidablePred (SinCobrosEnMedio S)
  | .go w _ => inferInstanceAs (Decidable (∀ p ∈ S.find? w, ∀ k ∈ p.cobra, ∀ x ∈ S.active, x.2.enAnulacion ≠ some k))
  | .start .. | .die _ | .outside _ => .isTrue trivial

/-- A charge of which nothing was paid. -/
def MerchantReceivable.Untouched (r : MerchantReceivable) : Prop := r.status = .pending ∧ r.amountOpen = r.amountOriginal

/-- Nothing was paid of an invoice. -/
def AnulacionDb.Untouched (s : AnulacionDb) (k : Nat) : Prop :=
  ∀ r ∈ s.cobros.billing.receivables, r.invoiceId = some k → r.Untouched

/-- The charges of an invoice that is there are as they were. -/
theorem mismos_cargos {p : PuntoConjunto} {entrada : EntradaConjunta} {q : Option PuntoConjunto}
    (hp : p.Cumple s) (h : seguirConjunto c s p entrada = some (s', q))
    (hk : ∃ i ∈ s.cobros.billing.invoices, i.id = k) (hcobra : k ∉ p.cobra) :
    ∀ r ∈ s'.cobros.billing.receivables, r.invoiceId = some k → r ∈ s.cobros.billing.receivables := by
  cases p with
  | fiscal p =>
    cases entrada with
    | fiscal entrada =>
      simp only [seguirConjunto] at h
      split at h
      · obtain ⟨x, -, heq⟩ := Option.map_eq_some_iff.mp h
        cases heq
        exact fun r hr _ => hr
      · cases h
    | _ => cases h
  | cobro p =>
    cases entrada with
    | cobro answer =>
      obtain ⟨⟨cobros, q'⟩, hnext, heq⟩ := Option.map_eq_some_iff.mp h
      cases heq
      obtain ⟨hcase, -⟩ := cobroCase_of_next hp.1 hp.2 hnext
      intro r hr hrk
      cases hcase with
      | kept hbilling _ => exact hbilling ▸ hr
      | @paid q hq =>
        -- a charge that is paid is of an invoice that the payment touched
        have hr' : r ∈ payAll s.cobros.billing.receivables q.applied := receivables_writes q s.cobros.billing ▸ hr
        obtain ⟨y, hy, hid, hinvoice⟩ := forall_mem_payAll (P := fun r =>
          ∃ y ∈ s.cobros.billing.receivables, y.id = r.id ∧ y.invoiceId = r.invoiceId) (fun _ _ hr _ _ => hr)
          hq.applicable (fun r hr => ⟨r, hr, rfl, rfl⟩) r hr'
        refine (mem_payAll_of_not_named fun x hx hxr => hcobra ?_).mp hr'
        obtain ⟨z, hz, hzid, hzinvoice⟩ := hq.applicable.home hx
        obtain rfl : z = y := Table.eq_of_key_eq hz hy ((hzid.trans hxr).trans hid.symm)
        exact mem_touchedBy.mpr ⟨x, hx, (hzinvoice.symm.trans hinvoice).trans hrk⟩
      | issued hissuable hok =>
        obtain ⟨heffect, -⟩ := issueLocked_effect hissuable hok
        rcases (heffect.mem_receivables r).mp hr with ⟨x, -, rfl⟩ | ⟨hr, -⟩
        · obtain ⟨i, hi, hid⟩ := hk
          exact absurd ((hid.trans (Option.some.inj hrk).symm).trans heffect.id) (Nat.ne_of_lt (Table.key_lt_nextKey hi))
        · exact hr
    | _ => cases h
  | anulacion p =>
    cases entrada with
    | anulacion entrada =>
      obtain ⟨⟨s', q'⟩, hseguir, heq⟩ := Option.map_eq_some_iff.mp h
      cases heq
      unfold seguirAnulacion at hseguir
      split at hseguir
      · cases hseguir
        exact fun r hr _ => hr
      · split at hseguir <;> cases hseguir <;> exact fun r hr _ => hr
      · cases hseguir
        exact fun r hr _ => hr
      · cases hseguir
        exact fun r hr _ => hr
      · split at hseguir <;> cases hseguir
        exact fun r hr _ => hr
      · cases hseguir
        exact fun r hr _ => hr
      · rename_i copia codigoMotivo mensajes cargos
        cases hseguir
        cases hanula : anularEn s copia codigoMotivo mensajes with
        | none => exact fun r hr _ => hr
        | some s' =>
          obtain ⟨-, hlibera, -⟩ := anularEn_eq_some hanula
          intro r hr hrk
          rcases (hlibera.receivables r).mp hr with ⟨hr, -⟩ | ⟨x, -, j, -, -, rfl⟩
          · exact hr
          · cases hrk
      · cases hseguir
    | _ => cases h

/-- When nothing was allocated to the charges of an invoice, they are as they were charged. -/
theorem untouched_of_cobrosDe {copia : DocumentoSiat} {n : Nat} (hledger : ChargeLedger s.cobros.billing)
    (hnone : ¬0 < cobrosDe s.cobros.billing copia n) (hk : copia.factura = some k) : s.Untouched k := by
  intro r hr hrk
  have hmerchant : copia.sourceType = .merchantInvoice ∧ copia.sourceId = k := by
    unfold FiscalDocument.factura at hk
    split at hk
    · exact ⟨‹_›, Option.some.inj hk⟩
    · cases hk
  obtain ⟨hsource, rfl⟩ := hmerchant
  simp only [cobrosDe, hsource, Nat.not_lt, Nat.le_zero, List.length_eq_zero_iff] at hnone
  have hzero : s.cobros.billing.allocatedTo r.id = 0 := by
    refine Table.total_eq_zero fun a ha => if_neg fun hid => ?_
    have hpaid := List.filter_eq_nil_iff.mp hnone a ha
    exact hpaid (List.any_eq_true.mpr ⟨r, hr, decide_eq_true ⟨hid.symm, hrk⟩⟩)
  have hopen : r.amountOpen = r.amountOriginal := by
    have hallocated := hledger.allocated r hr
    omega
  rcases hledger.settled r hr with ⟨-, hstatus⟩ | ⟨hless, -⟩
  · exact ⟨hstatus, hopen⟩
  · omega

/-- The invoice of an annulment that goes on is there. -/
theorem invoice_of_enAnulacion {p : PuntoConjunto} (hbien : AnulacionesBien s) (hp : p.Cumple s)
    (hk : p.enAnulacion = some k) : ∃ i ∈ s.cobros.billing.invoices, i.id = k := by
  have hfila : ∀ {copia : DocumentoSiat}, FilaDe s copia → copia.factura = some k →
      ∃ i ∈ s.cobros.billing.invoices, i.id = k := by
    rintro copia ⟨d, hd, -, hfactura, -⟩ hk
    exact hbien.documentos d hd k (hfactura.trans hk)
  cases p with
  | fiscal | cobro => cases hk
  | anulacion p =>
    cases p with
    | contando => cases hk
    | conCodigos | porLlamar | esperando => exact hfila hp hk
    | confirmada | liberando => exact hfila hp.1 hk

/-- What is released was not paid. -/
def AnulacionDb.ReleasedUntouched (s : AnulacionDb) : Prop := ∀ a ∈ s.anulaciones, ∀ r ∈ a.liberados, r.Untouched

/-- **A step of an annulment** of which nothing was paid. -/
theorem untouched_of_anulacion {p : PuntoAnulacion} {entrada : EntradaAnulacion} {q : Option PuntoAnulacion}
    (hbien : AnulacionesBien s) (hreleased : s.ReleasedUntouched)
    (hp : ∀ k, (PuntoConjunto.anulacion p).enAnulacion = some k → s.Untouched k)
    (h : seguirAnulacion s p entrada = some (s', q)) :
    s'.ReleasedUntouched ∧ ∀ p' ∈ q, ∀ k, (PuntoConjunto.anulacion p').enAnulacion = some k → s'.Untouched k := by
  have hend : ∀ p' ∈ (none : Option PuntoAnulacion), ∀ k, (PuntoConjunto.anulacion p').enAnulacion = some k →
      s.Untouched k := fun p' hp' => absurd hp' (Option.not_mem_none p')
  have hgo : ∀ {p' : PuntoAnulacion},
      (PuntoConjunto.anulacion p').enAnulacion = (PuntoConjunto.anulacion p).enAnulacion →
        ∀ p'' ∈ some p', ∀ k, (PuntoConjunto.anulacion p'').enAnulacion = some k → s.Untouched k := by
    intro p' heq p'' hp'' k hk
    obtain rfl := Option.some.inj hp''
    exact hp k (heq.symm.trans hk)
  unfold seguirAnulacion at h
  split at h
  · cases h
    refine ⟨hreleased, ?_⟩
    split
    · exact hend
    · intro p' hp' k hk
      obtain rfl := Option.some.inj hp'
      exact untouched_of_cobrosDe hbien.ledger ‹_› hk
  · split at h
    · cases h
      exact ⟨hreleased, hgo rfl⟩
    · cases h
      exact ⟨hreleased, hend⟩
  · cases h
    exact ⟨hreleased, hgo rfl⟩
  · cases h
    exact ⟨hreleased, hend⟩
  · split at h
    · cases h
      refine ⟨hreleased, ?_⟩
      split
      · exact hgo rfl
      · exact hend
    · cases h
  · cases h
    exact ⟨hreleased, hgo rfl⟩
  · rename_i copia codigoMotivo mensajes cargos
    cases h
    cases hanula : anularEn s copia codigoMotivo mensajes with
    | none => exact ⟨hreleased, hend⟩
    | some s' =>
      obtain ⟨-, -, -, -, hanulaciones⟩ := anularEn_eq_some hanula
      refine ⟨fun a ha r hr => ?_, fun p' hp' => absurd hp' (Option.not_mem_none p')⟩
      have ha' : a ∈ s.anulaciones ++ [⟨copia.id, copia.cuf, copia.factura, cargosDe s.cobros.billing copia⟩] :=
        hanulaciones ▸ ha
      rcases List.mem_append.mp ha' with ha | ha
      · exact hreleased a ha r hr
      · obtain rfl := List.mem_singleton.mp ha
        cases hfactura : copia.factura with
        | none =>
          simp only [cargosDe, hfactura, List.not_mem_nil] at hr
        | some k =>
          simp only [cargosDe, hfactura] at hr
          obtain ⟨hmem, hrk⟩ := Table.mem_rowsWhere.mp hr
          exact hp k hfactura r hmem (of_decide_eq_true hrk)
  · cases h

theorem released_promises (hok : ∀ S a, ok S a → SinCobrosEnMedio S a) : (anulacionWorkers c).Promises
    (Workers.Keeps AnulacionesBien fun p s => PuntoConjunto.Cumple s p) ok AnulacionDb.ReleasedUntouched
    (fun p s => ∀ k, p.enAnulacion = some k → s.Untouched k) where
  start {S tarea p} _ _ hstart k hk := by
    cases tarea with
    | anular documentId codigoMotivo accede =>
      simp only [anulacionWorkers, empezarConjunto] at hstart
      split at hstart
      · obtain rfl := Option.some.inj hstart
        cases hk
      · cases hstart
    | _ =>
      obtain ⟨p, -, rfl⟩ := Option.map_eq_some_iff.mp hstart
      cases hk
  next {S w entrada p store q} hG hS hfind _ hnext := by
    cases p with
    | fiscal p =>
      cases entrada with
      | fiscal entrada =>
        simp only [anulacionWorkers, seguirConjunto] at hnext
        split at hnext
        · obtain ⟨x, -, heq⟩ := Option.map_eq_some_iff.mp hnext
          cases heq
          refine ⟨hS.store, fun p' hp' k hk => ?_⟩
          obtain ⟨p', -, rfl⟩ := Option.map_eq_some_iff.mp hp'
          cases hk
        · cases hnext
      | _ => cases hnext
    | cobro p =>
      cases entrada with
      | cobro answer =>
        obtain ⟨x, -, heq⟩ := Option.map_eq_some_iff.mp hnext
        cases heq
        refine ⟨hS.store, fun p' hp' k hk => ?_⟩
        obtain ⟨p', -, rfl⟩ := Option.map_eq_some_iff.mp hp'
        cases hk
      | _ => cases hnext
    | anulacion p =>
      cases entrada with
      | anulacion entrada =>
        obtain ⟨⟨s', q'⟩, hseguir, heq⟩ := Option.map_eq_some_iff.mp hnext
        cases heq
        obtain ⟨hreleased, hq⟩ := untouched_of_anulacion hG.store hS.store (hS.at hfind) hseguir
        refine ⟨hreleased, fun p' hp' => ?_⟩
        obtain ⟨p', hmem, rfl⟩ := Option.map_eq_some_iff.mp hp'
        exact hq p' hmem
      | _ => cases hnext
  stable {S w entrada p store q} hG hS hfind hgo hnext x hx k hk r hr hrk := by
    obtain ⟨hxmem, -⟩ := Sessions.mem_others.mp hx
    have hcobra : k ∉ p.cobra := fun hin => hok _ _ hgo p hfind k hin x hxmem hk
    have hinvoice := invoice_of_enAnulacion hG.store (hG.worker x hxmem) hk
    exact hS.worker x hxmem k hk r (mismos_cargos (hG.at hfind) hnext hinvoice hcobra r hr hrk) hrk
  outside {S suceso store} hG hS _ hsuceso := by
    have hquiet : store.anulaciones = S.committed.anulaciones →
        (∀ k, (∀ r ∈ store.cobros.billing.receivables, r.invoiceId = some k → r ∈ S.committed.cobros.billing.receivables)) →
          Workers.Keeps AnulacionDb.ReleasedUntouched (fun p s => ∀ k, p.enAnulacion = some k → s.Untouched k)
            { S with committed := store } := by
      intro hanulaciones hcargos
      refine ⟨fun a ha => hS.store a (hanulaciones ▸ ha), fun x hx k hk r hr hrk => ?_⟩
      exact hS.worker x hx k hk r (hcargos k r hr hrk) hrk
    cases suceso with
    | cargo input =>
      obtain ⟨cobros, hcargo, rfl⟩ := Option.map_eq_some_iff.mp hsuceso
      obtain ⟨-, rfl⟩ := outside_eq_some hcargo
      refine hquiet rfl fun k r hr hrk => ?_
      rcases (Table.mem_create fun _ => rfl).mp hr with hr | rfl
      · exact hr
      · cases hrk
    | fiscal | sirveAnulacion =>
      obtain ⟨x, -, rfl⟩ := Option.map_eq_some_iff.mp hsuceso
      exact hquiet rfl fun k r hr _ => hr
    | anulaSinPedido =>
      obtain rfl := Option.some.inj hsuceso
      exact hquiet rfl fun k r hr _ => hr

/-- What annulments leave: the documents, the invoices and the charges agree. -/
structure AnulacionesCompletas (s : AnulacionDb) : Prop where
  /-- The invoice of an annulled document is cancelled. -/
  documentos : ∀ d ∈ s.fiscal.documents, d.annulledAt ≠ none → ∀ k, d.factura = some k → s.cobros.billing.Cancelled k
  /-- An invoice is cancelled by an annulment that the authority confirmed. -/
  facturas : ∀ k, s.cobros.billing.Cancelled k → ∃ a ∈ s.anulaciones, a.invoiceId = some k ∧ a.cuf ∈ s.anuladas ∧
    ∃ d ∈ s.fiscal.documents, d.id = a.documentId ∧ d.factura = some k ∧ d.annulledAt ≠ none
  /-- No charge is of a cancelled invoice. -/
  cargos : ∀ k, s.cobros.billing.Cancelled k → ∀ r ∈ s.cobros.billing.receivables, r.invoiceId ≠ some k
  /-- A charge that was issued twice was so after an annulment. -/
  emitidos : ∀ issue ∈ s.cobros.issues, ∀ issue' ∈ s.cobros.issues, issue.invoiceId ≠ issue'.invoiceId →
    ∀ id ∈ issue.ids, id ∈ issue'.ids →
      s.cobros.billing.Cancelled issue.invoiceId ∨ s.cobros.billing.Cancelled issue'.invoiceId
  ledger : ChargeLedger s.cobros.billing

theorem AnulacionesBien.completas (h : AnulacionesBien s) : AnulacionesCompletas s where
  documentos d hd hannulled k hk := by
    obtain ⟨a, ha, haid⟩ := (h.anulados d hd).mp hannulled
    obtain ⟨-, d', hd', hid, hfactura⟩ := h.origen a ha
    obtain rfl : d' = d := Table.eq_of_key_eq hd' hd (hid.trans haid)
    exact (h.canceladas k).mpr ⟨a, ha, hfactura.symm.trans hk⟩
  facturas k hk := by
    obtain ⟨a, ha, hak⟩ := (h.canceladas k).mp hk
    obtain ⟨hcuf, d, hd, hid, hfactura⟩ := h.origen a ha
    exact ⟨a, ha, hak, hcuf, d, hd, hid, hfactura.trans hak, (h.anulados d hd).mpr ⟨a, ha, hid.symm⟩⟩
  cargos := h.vacias
  emitidos issue hissue issue' hissue' hne id hid hid' := by
    rcases h.cargos issue hissue id hid with hcancelled | ⟨r, hr, hrid, hrk⟩
    · exact .inl hcancelled
    · rcases h.cargos issue' hissue' id hid' with hcancelled | ⟨r', hr', hrid', hrk'⟩
      · exact .inr hcancelled
      · obtain rfl : r = r' := Table.eq_of_key_eq hr hr' (hrid.trans hrid'.symm)
        exact absurd (Option.some.inj (hrk.symm.trans hrk')) hne
  ledger := h.ledger

/-- **Annulments are complete**, in every run: the invoice of an annulled document is cancelled for good, by the word of
the authority, and its charges can be invoiced again, once; and they are as they were charged when no payment of the
invoice commits between the count of the annulment and its end. -/
theorem annulled_invoices (h : (anulacionMachine c).Reachable ok S) :
    AnulacionesCompletas S.committed ∧
      (∀ a S', (anulacionMachine c).step S a = some S' → ∀ k, S.committed.cobros.billing.Cancelled k →
        S'.committed.cobros.billing.Cancelled k) ∧
      ((∀ S a, ok S a → SinCobrosEnMedio S a) → S.committed.ReleasedUntouched) := by
  have hkeeps := bien_of_reachable h
  refine ⟨hkeeps.store.completas, fun a S' hstep k hk => ?_, fun hok => ?_⟩
  · have hpromises : (anulacionWorkers c).Promises _ (fun _ _ => True) AnulacionesBien
        (fun p s => PuntoConjunto.Cumple s p) := anulacionWorkers_promises
    have hstep' : Workers.Keeps AnulacionesBien (fun p s => PuntoConjunto.Cumple s p) S' :=
      hpromises.step (Workers.exclusive h) trivial hstep hkeeps
    obtain ⟨anulacion, hmem, hinvoice⟩ := (hkeeps.store.canceladas k).mp hk
    exact (hstep'.store.canceladas k).mpr
      ⟨anulacion, (avanza_of_step hkeeps hstep).anulaciones.subset hmem, hinvoice⟩
  · refine (Workers.keeps (released_promises hok) (fun s hblank a ha => ?_) (fun _ hS => bien_of_reachable hS) h).store
    exact absurd (hblank.anulaciones ▸ ha) List.not_mem_nil

end Released

/-! ## An invoice that is annulled -/

section Run

def exampleAnulacion : AnulacionConfig where
  toSiatConfig := exampleSiat
  motivos := []
  issuedAt _ := 0
  MERCHANT_BILLING_DUE_DAYS := 30

/-- The first day. -/
def sinAnulaciones : AnulacionDb := ⟨exampleFiscal, sinCargos, [], [], []⟩

theorem sinAnulaciones_blank : (anulacionMachine exampleAnulacion).init ⟨sinAnulaciones, []⟩ :=
  ⟨⟨exampleFiscal_sinHistoria.1, sinCargos_blank, rfl⟩, rfl⟩

/-- The charge is put on an invoice. -/
def cargoFacturado : List ActoConjunto :=
  .start 1 (.cobro (.issueInvoice ⟨7, none, 20728, 20758, [1], none⟩)) ::
    List.replicate 4 (.go 1 (.cobro ⟨[1], ⟨1300, "FAC-CM-2026-0001", .ok ()⟩, none⟩))

/-- The document of the invoice is issued, sent and accepted. -/
def facturaValidada : List ActoConjunto :=
  [.start 1 (.fiscal (.preparar 1)), .go 1 (.fiscal (.enLinea "C1".toList (some exampleCufd) (some true))),
    .go 1 (.fiscal (.documento (exampleEmision 1).documento)), .go 1 (.fiscal .sigue),
    .start 1 (.fiscal (.reclamar [1])), .go 1 (.fiscal .sigue), .start 1 (.fiscal (.enviar 1)), .go 1 (.fiscal .sigue),
    .outside (.fiscal (.sirveFactura 0 (some "R1".toList))),
    .go 1 (.fiscal (.llamada (.ok { respuestaVacia with
      codigoEstado := some CODIGO_ESTADO.VALIDADA, codigoRecepcion := some "R1".toList }))), .go 1 (.fiscal .sigue)]

/-- An annulment up to the count of what was paid, and the rest of it. -/
def anulacionContada : List ActoConjunto := [.start 2 (.anular 1 1 true), .go 2 (.anulacion (.cobrosAr 0))]

def anulacionTerminada : List ActoConjunto :=
  [.go 2 (.anulacion (.cufd none)), .go 2 (.anulacion .sigue), .outside (.sirveAnulacion 0),
    .go 2 (.anulacion (.llamada (.ok { respuestaVacia with codigoEstado := some CODIGO_ESTADO.ANULACION_CONFIRMADA }))),
    .go 2 (.anulacion .sigue), .go 2 (.anulacion .sigue)]

/-- A payment of 20.00 of the charge. -/
def cargoPagado : List ActoConjunto :=
  .start 3 (.cobro (.registerMerchantPayment ⟨7, 2000, "BOB", 0, none, none, [⟨1, 2000⟩]⟩)) ::
    List.replicate 7 (.go 3 (.cobro ⟨[], ⟨1300, "", .ok ()⟩, none⟩))

/-- The charge is invoiced again after the annulment. -/
def cargoRefacturado : Sessions AnulacionDb PuntoConjunto :=
  (anulacionMachine exampleAnulacion).afterIf SinCobrosEnMedio ⟨sinAnulaciones, []⟩
    (.outside (.cargo (cargoDe50 1)) :: (cargoFacturado ++ facturaValidada ++ anulacionContada ++ anulacionTerminada ++
      cargoFacturado))

/-- The charge is paid while the authority is asked. -/
def cargoPagadoEnMedio : Sessions AnulacionDb PuntoConjunto :=
  (anulacionMachine exampleAnulacion).after ⟨sinAnulaciones, []⟩
    (.outside (.cargo (cargoDe50 1)) :: (cargoFacturado ++ facturaValidada ++ anulacionContada ++ cargoPagado ++
      anulacionTerminada))

/-- What the two runs leave. -/
theorem cargos_anulados :
    (cargoRefacturado.committed.fiscal.documents.rows.map (·.siatStatus) = [.voided] ∧
      cargoRefacturado.committed.cobros.billing.invoices.rows.map (·.status) = [.cancelled, .issued] ∧
      cargoRefacturado.committed.cobros.issues.map (fun i => (i.invoiceId, i.ids)) = [(1, [1]), (2, [1])]) ∧
    ∃ a ∈ cargoPagadoEnMedio.committed.anulaciones, ∃ r ∈ a.liberados, r.status = .partiallyPaid ∧ r.amountOpen = 3000 := by
  decide +kernel

/-- **A charge that was paid is released**, when the payment commits after the count. -/
theorem annulled_invoices_paid : (anulacionMachine exampleAnulacion).Reachable (fun _ _ => True) cargoPagadoEnMedio ∧
    ¬cargoPagadoEnMedio.committed.ReleasedUntouched := by
  refine ⟨(anulacionMachine exampleAnulacion).reachable_after sinAnulaciones_blank _, fun hreleased => ?_⟩
  obtain ⟨a, ha, r, hr, hpaid, -⟩ := cargos_anulados.2
  have hpending : r.status = .pending := (hreleased a ha r hr).1
  cases hpaid.symm.trans hpending

theorem annulled_invoices_again :
    (cargoRefacturado.committed.fiscal.documents.rows.map (·.siatStatus) = [.voided] ∧
      cargoRefacturado.committed.cobros.billing.invoices.rows.map (·.status) = [.cancelled, .issued] ∧
      cargoRefacturado.committed.cobros.issues.map (fun i => (i.invoiceId, i.ids)) = [(1, [1]), (2, [1])]) ∧
    AnulacionesCompletas cargoRefacturado.committed ∧ cargoRefacturado.committed.ReleasedUntouched := by
  have hreach : (anulacionMachine exampleAnulacion).Reachable SinCobrosEnMedio cargoRefacturado :=
    (anulacionMachine exampleAnulacion).reachable_afterIf SinCobrosEnMedio sinAnulaciones_blank _
  obtain ⟨hcompletas, -, hreleased⟩ := annulled_invoices hreach
  exact ⟨cargos_anulados.1, hcompletas, hreleased fun _ _ hok => hok⟩

end Run

end AtlasErp
