import AtlasErp.Billing.ChargeLedger

/-! # Each charge is invoiced once

Whoever issues, a charge is on one invoice, and on one line of it, for what was open of it then.

- `InvoicedOnce`: what the tables say of what was issued; `InvoicedOnce.write`: every write keeps it;
- `invoicedOnce_of_reachable`: so it holds in every run, and an issue writes everything at once or nothing. -/

namespace AtlasErp

open Lib

/-- The lines of an invoice. -/
def BillingDb.linesOf (db : BillingDb) (invoiceId : Nat) : List MerchantInvoiceLine :=
  db.invoiceLines.rowsWhere (·.invoiceId = invoiceId)

/-- What was issued is what the tables say, and no charge was issued twice. -/
structure InvoicedOnce (s : ChargeDb) : Prop where
  once : (s.issues.flatMap Issue.ids).Nodup
  distinct : (s.issues.map (·.invoiceId)).Nodup
  invoices : ∀ k, (∃ i ∈ s.billing.invoices, i.id = k) ↔ ∃ issue ∈ s.issues, issue.invoiceId = k
  present : ∀ issue ∈ s.issues, ∀ id ∈ issue.ids, ∃ r ∈ s.billing.receivables, r.id = id
  belongs : ∀ r ∈ s.billing.receivables, ∀ k,
    r.invoiceId = some k ↔ ∃ issue ∈ s.issues, issue.invoiceId = k ∧ r.id ∈ issue.ids
  /-- One line for each charge of an invoice, for what was open of it, and no other. -/
  lines : ∀ issue ∈ s.issues,
    List.Forall₂ (LineOf issue.invoiceId) issue.receivables (s.billing.linesOf issue.invoiceId)
  owned : ∀ line ∈ s.billing.invoiceLines, ∃ issue ∈ s.issues, issue.invoiceId = line.invoiceId
  cycles : (s.runs.rows.map (·.cycleKey)).Nodup

section Writes

variable {s s' : ChargeDb} {db : BillingDb} {q : PaymentProgress}

theorem ChargeDb.Blank.invoicedOnce (h : s.Blank) : InvoicedOnce s := by
  have hissues : ∀ issue, issue ∉ s.issues := fun issue => h.issues ▸ List.not_mem_nil
  refine ⟨by rw [h.issues]; exact List.nodup_nil, by rw [h.issues]; exact List.nodup_nil, fun k => ?_,
    fun issue hissue => absurd hissue (hissues issue), fun r hr => ?_, fun issue hissue => absurd hissue (hissues issue),
    fun line hline => ?_, by rw [h.runs]; exact List.nodup_nil⟩
  · rw [h.invoices]
    exact iff_of_false (fun ⟨i, hi, _⟩ => Table.not_mem_empty i hi) fun ⟨issue, hissue, _⟩ => hissues issue hissue
  · exact absurd (h.receivables ▸ hr) (Table.not_mem_empty r)
  · exact absurd (h.invoiceLines ▸ hline) (Table.not_mem_empty line)

/-- A new charge is on no invoice. -/
theorem InvoicedOnce.charge (h : InvoicedOnce s) (input : ChargeDto) : InvoicedOnce { s with
    billing := { s.billing with receivables := s.billing.receivables.create (newReceivable input) } } := by
  have hcreate := fun {x} => @Table.mem_create _ _ s.billing.receivables (newReceivable input) (fun _ => rfl) x
  refine ⟨h.once, h.distinct, h.invoices, fun issue hissue id hid => ?_, fun r hr k => ?_, h.lines, h.owned, h.cycles⟩
  · obtain ⟨r, hr, hrid⟩ := h.present issue hissue id hid
    exact ⟨r, hcreate.mpr (.inl hr), hrid⟩
  · rcases hcreate.mp hr with hr | rfl
    · exact h.belongs r hr k
    · refine iff_of_false nofun ?_
      rintro ⟨issue, hissue, -, hid⟩
      obtain ⟨r, hr, hrid⟩ := h.present issue hissue _ hid
      exact absurd hrid (Nat.ne_of_lt (Table.key_lt_nextKey hr))

/-- A payment neither adds invoices nor lines. -/
theorem PaymentProgress.invoices_writes (q : PaymentProgress) (db : BillingDb) :
    (q.writes db).invoiceLines = db.invoiceLines ∧
      ∀ k, (∃ i ∈ (q.writes db).invoices, i.id = k) ↔ ∃ i ∈ db.invoices, i.id = k := by
  have hallocate : ∀ (applied : List (MerchantReceivable × Int)) (k : Nat) (db : BillingDb),
      (PaymentProgress.allocate k db applied).invoiceLines = db.invoiceLines := by
    intro applied k
    induction applied with
    | nil => exact fun _ => rfl
    | cons x applied ih => exact fun db => ih (db.allocate k x.1 x.2)
  have hstatuses : ∀ (refreshed : List (Nat × Option InvoiceStatus)) (db : BillingDb),
      (PaymentProgress.writeStatuses db refreshed).invoiceLines = db.invoiceLines ∧
        ∀ k, (∃ i ∈ (PaymentProgress.writeStatuses db refreshed).invoices, i.id = k) ↔ ∃ i ∈ db.invoices, i.id = k := by
    intro refreshed
    induction refreshed with
    | nil => exact fun _ => ⟨rfl, fun _ => Iff.rfl⟩
    | cons x refreshed ih =>
      obtain ⟨j, _ | status⟩ := x
      · exact ih
      · intro db
        obtain ⟨hlines, hinvoices⟩ := ih (db.setInvoiceStatus j status)
        refine ⟨hlines, fun k => (hinvoices k).trans ?_⟩
        have hupdate := fun {i} => @Table.mem_updateWhere _ _ db.invoices (·.id = j)
          (fun i : MerchantInvoice => { i with status }) (fun _ => rfl) i
        constructor
        · rintro ⟨i', hi', hid⟩
          obtain ⟨i, hi, rfl⟩ := hupdate.mp hi'
          refine ⟨i, hi, hid ▸ ?_⟩
          split <;> rfl
        · rintro ⟨i, hi, hid⟩
          refine ⟨_, hupdate.mpr ⟨i, hi, rfl⟩, hid ▸ ?_⟩
          split <;> rfl
  obtain ⟨hlines, hinvoices⟩ := hstatuses q.refreshed (PaymentProgress.allocate db.payments.nextKey
    { db with payments := db.payments.create (newPayment q.input q.amount) } q.applied)
  unfold PaymentProgress.writes
  refine ⟨hlines.trans (hallocate _ _ _), fun k => (hinvoices k).trans ?_⟩
  rw [(receivables_allocate _ _ _).2]

/-- A payment moves no charge to another invoice. -/
theorem InvoicedOnce.pay (h : InvoicedOnce s) (happlied : Applicable s.billing.receivables q.applied) :
    InvoicedOnce { s with billing := q.writes s.billing } := by
  obtain ⟨hlines, hinvoices⟩ := q.invoices_writes s.billing
  have hbefore : ∀ r ∈ (q.writes s.billing).receivables,
      ∃ x ∈ s.billing.receivables, x.id = r.id ∧ x.invoiceId = r.invoiceId := by
    rw [receivables_writes]
    exact forall_mem_payAll (P := fun r => ∃ x ∈ s.billing.receivables, x.id = r.id ∧ x.invoiceId = r.invoiceId)
      (fun r amount hr _ _ => hr) happlied fun r hr => ⟨r, hr, rfl, rfl⟩
  refine ⟨h.once, h.distinct, fun k => (hinvoices k).trans (h.invoices k), fun issue hissue id hid => ?_, fun r hr k => ?_,
    fun issue hissue => ?_, fun line hline => h.owned line (hlines ▸ hline), h.cycles⟩
  · obtain ⟨r, hr, rfl⟩ := h.present issue hissue id hid
    obtain ⟨r', hr', hrid, -⟩ := exists_mem_payAll happlied hr
    exact ⟨r', receivables_writes q s.billing ▸ hr', hrid⟩
  · obtain ⟨x, hx, hid, hinvoice⟩ := hbefore r hr
    rw [← hid, ← hinvoice]
    exact h.belongs x hx k
  · rw [BillingDb.linesOf, hlines]
    exact h.lines issue hissue

/-- An issue bills charges that were on no invoice. -/
theorem InvoicedOnce.issue (h : InvoicedOnce s) {input : IssueInvoiceDto} {context : IssueContext}
    {rows : List MerchantReceivable} {invoice : MerchantInvoice} {billing : BillingDb} (hissuable : Issuable s.billing rows)
    (hok : issueLocked s.billing input context rows = .ok (invoice, billing)) :
    InvoicedOnce { s with billing, issues := s.issues ++ [⟨invoice.id, rows⟩] } := by
  obtain ⟨heffect, -⟩ := issueLocked_effect hissuable hok
  obtain ⟨mk, hmk, hline, hof, hlines⟩ := issueLocked_lines hissuable hok
  obtain ⟨added, hadded, hall⟩ := Table.rows_foldl_create hmk rows s.billing.invoiceLines
  rw [← hlines] at hadded
  have hnew : ∀ issue ∈ s.issues, issue.invoiceId ≠ invoice.id := fun issue hissue heq => by
    obtain ⟨i, hi, hid⟩ := (h.invoices issue.invoiceId).mpr ⟨issue, hissue, rfl⟩
    exact absurd ((hid.trans heq).trans heffect.id) (Nat.ne_of_lt (Table.key_lt_nextKey hi))
  have hunbilled : ∀ r ∈ rows, ∀ issue ∈ s.issues, r.id ∉ issue.ids := fun r hr issue hissue hid => by
    have hbilled := (h.belongs r (hissuable.mem r hr) issue.invoiceId).mpr ⟨issue, hissue, rfl, hid⟩
    rw [hissuable.not_invoiced r hr] at hbilled
    cases hbilled
  have hstays : ∀ r ∈ s.billing.receivables, ∃ r' ∈ billing.receivables, r'.id = r.id := by
    intro r hr
    by_cases hin : ∃ r' ∈ rows, r.id = r'.id
    · obtain ⟨r', hr', hid⟩ := hin
      exact ⟨r'.tie invoice.id, (heffect.mem_receivables _).mpr (.inl ⟨r', hr', rfl⟩), hid.symm⟩
    · exact ⟨r, (heffect.mem_receivables r).mpr (.inr ⟨hr, fun r' hr' hid => hin ⟨r', hr', hid⟩⟩), rfl⟩
  have hof_added : ∀ line ∈ added, line.invoiceId = invoice.id := by
    have hflip : List.Forall₂ (fun line (_ : MerchantReceivable) => line.invoiceId = invoice.id ∧ True) added rows := by
      refine hall.flip.imp ?_
      rintro line r ⟨k, rfl⟩
      exact ⟨(hof r k).1, trivial⟩
    exact ((List.forall₂_and_left _ _).mp hflip).1
  refine ⟨?_, ?_, fun k => ?_, fun issue hissue id hid => ?_, fun x hx k => ?_, fun issue hissue => ?_,
    fun line hmem => ?_, h.cycles⟩
  · rw [List.flatMap_append, List.flatMap_singleton]
    refine h.once.append hissuable.nodup fun id hid hrow => ?_
    obtain ⟨issue, hissue, hid⟩ := List.mem_flatMap.mp hid
    obtain ⟨r, hr, rfl⟩ := List.mem_map.mp hrow
    exact hunbilled r hr issue hissue hid
  · rw [List.map_append, List.map_singleton]
    refine h.distinct.append (List.nodup_singleton _) fun k hk hsame => ?_
    obtain ⟨issue, hissue, rfl⟩ := List.mem_map.mp hk
    exact hnew issue hissue (List.mem_singleton.mp hsame)
  · simp only [heffect.mem_invoices, List.mem_append, List.mem_singleton, or_and_right, exists_or, exists_eq_left]
    exact or_congr_left (h.invoices k)
  · rcases List.mem_append.mp hissue with hissue | hissue
    · obtain ⟨r, hr, rfl⟩ := h.present issue hissue id hid
      exact hstays r hr
    · obtain rfl := List.mem_singleton.mp hissue
      obtain ⟨r, hr, rfl⟩ := List.mem_map.mp hid
      exact hstays r (hissuable.mem r hr)
  · simp only [List.mem_append, List.mem_singleton, or_and_right, exists_or, exists_eq_left]
    rcases (heffect.mem_receivables x).mp hx with ⟨r, hr, rfl⟩ | ⟨hx, hother⟩
    · have hnone : ¬∃ issue ∈ s.issues, issue.invoiceId = k ∧ (r.tie invoice.id).id ∈ issue.ids := by
        rintro ⟨issue, hissue, -, hid⟩
        exact hunbilled r hr issue hissue hid
      rw [or_iff_right hnone]
      have hmem : (r.tie invoice.id).id ∈ rows.map (·.id) := List.mem_map.mpr ⟨r, hr, rfl⟩
      exact ⟨fun hk => ⟨Option.some.inj hk, hmem⟩, fun hk => congrArg some hk.1⟩
    · have hnone : ¬(invoice.id = k ∧ x.id ∈ Issue.ids ⟨invoice.id, rows⟩) := by
        rintro ⟨-, hid⟩
        obtain ⟨r, hr, heq⟩ := List.mem_map.mp hid
        exact hother r hr heq.symm
      rw [or_iff_left hnone]
      exact h.belongs x hx k
  · have hsplit : billing.linesOf issue.invoiceId =
        s.billing.linesOf issue.invoiceId ++ added.filter (·.invoiceId = issue.invoiceId) := by
      rw [BillingDb.linesOf, Table.rowsWhere, hadded, List.filter_append]
      rfl
    rcases List.mem_append.mp hissue with hissue | hissue
    · have hnone : added.filter (·.invoiceId = issue.invoiceId) = [] :=
        List.filter_eq_nil_iff.mpr fun line hmem heq =>
          hnew issue hissue ((of_decide_eq_true heq).symm.trans (hof_added line hmem))
      rw [hsplit, hnone, List.append_nil]
      exact h.lines issue hissue
    · obtain rfl := List.mem_singleton.mp hissue
      have hold : s.billing.linesOf invoice.id = [] := List.filter_eq_nil_iff.mpr fun line hmem heq => by
        obtain ⟨issue, hissue, hid⟩ := h.owned line hmem
        exact hnew issue hissue (hid.trans (of_decide_eq_true heq))
      have hnewLines : added.filter (·.invoiceId = invoice.id) = added :=
        List.filter_eq_self.mpr fun line hmem => decide_eq_true (hof_added line hmem)
      rw [hsplit, hold, hnewLines, List.nil_append]
      refine ((List.forall₂_and_left _ _).mpr ⟨hline, hall⟩).imp ?_
      rintro r line ⟨hr, k, rfl⟩
      exact hr k
  · rcases List.mem_append.mp (hadded ▸ hmem : line ∈ s.billing.invoiceLines.rows ++ added) with hmem | hmem
    · obtain ⟨issue, hissue, hid⟩ := h.owned line hmem
      exact ⟨issue, List.mem_append_left _ hissue, hid⟩
    · exact ⟨_, List.mem_append_right _ (List.mem_singleton.mpr rfl), (hof_added line hmem).symm⟩

/-- **Every write keeps charges on one invoice.** -/
theorem InvoicedOnce.write (hwrite : ChargeCase s s') (h : InvoicedOnce s) : InvoicedOnce s' := by
  cases hwrite with
  | kept hcycles => exact ⟨h.once, h.distinct, h.invoices, h.present, h.belongs, h.lines, h.owned, hcycles h.cycles⟩
  | charged => exact h.charge _
  | paid happlied _ => exact h.pay happlied
  | issued hissuable hok => exact h.issue hissuable hok

end Writes

/-! ## In every run -/

section Runs

variable {issuedAt : Nat → Instant} {MERCHANT_BILLING_DUE_DAYS : Int} {ok : Sessions ChargeDb ChargePoint → ChargeAct → Prop}
  {S : Sessions ChargeDb ChargePoint}

/-- What a statement of an issue commits: all of it, when it is the last one and succeeds. -/
def Issued (S S' : Sessions ChargeDb ChargePoint) (call : IssueCall) (stage : IssueStage) (answer : ChargeAnswer) : Prop :=
  ∃ rows invoice, stage = .locked rows ∧ (∀ r ∈ rows, r ∈ S.committed.billing.receivables ∧ r.invoiceId = none) ∧
    issueLocked S.committed.billing call.input answer.context rows = .ok (invoice, S'.committed.billing) ∧
    S'.committed.issues = S.committed.issues ++ [⟨invoice.id, rows⟩]

/-- An issue writes everything at its commit, and nothing before. -/
theorem writes_of_issuing {w : Nat} {call : IssueCall} {stage : IssueStage} {answer : ChargeAnswer}
    {S' : Sessions ChargeDb ChargePoint} (hfind : S.find? w = some (.issuing call stage))
    (hrelies : stage.Relies S.committed.billing)
    (h : (chargeMachine issuedAt MERCHANT_BILLING_DUE_DAYS).step S (.go w answer) = some S') :
    S'.committed = S.committed ∨ Issued S S' call stage answer := by
  obtain ⟨q, hnext⟩ : ∃ q, ChargePoint.next issuedAt MERCHANT_BILLING_DUE_DAYS (.issuing call stage) answer S.committed =
      some (S'.committed, q) := Workers.next_of_step h hfind
  unfold ChargePoint.next at hnext
  cases herror : answer.error with
  | some e =>
    rw [herror] at hnext
    exact .inl (Prod.mk.inj (Option.some.inj hnext)).1.symm
  | none =>
    rw [herror] at hnext
    dsimp only at hnext
    cases stage with
    | preparing =>
      unfold ChargePoint.nextIssuing at hnext
      dsimp only at hnext
      split at hnext
      · exact .inl (Prod.mk.inj (Option.some.inj hnext)).1.symm
      · cases hnext
    | locking rows todo =>
      cases todo with
      | nil =>
        unfold ChargePoint.nextIssuing at hnext
        dsimp only at hnext
        split at hnext <;> exact .inl (Prod.mk.inj (Option.some.inj hnext)).1.symm
      | cons id todo =>
        unfold ChargePoint.nextIssuing at hnext
        dsimp only at hnext
        split at hnext <;> exact .inl (Prod.mk.inj (Option.some.inj hnext)).1.symm
    | locked rows =>
      have hissuable : Issuable S.committed.billing rows := hrelies
      unfold ChargePoint.nextIssuing at hnext
      dsimp only at hnext
      cases hok : issueLocked S.committed.billing call.input answer.context rows with
      | error e =>
        rw [hok] at hnext
        exact .inl (Prod.mk.inj (Option.some.inj hnext)).1.symm
      | ok result =>
        obtain ⟨invoice, billing⟩ := result
        rw [hok] at hnext
        have hcommitted := (Prod.mk.inj (Option.some.inj hnext)).1.symm
        refine .inr ⟨rows, invoice, rfl, fun r hr => ⟨hissuable.mem r hr, hissuable.not_invoiced r hr⟩, ?_, ?_⟩
        · rw [hcommitted, hok]
        · rw [hcommitted]

/-- **Each charge is invoiced once**, in every run: no charge is issued twice, the charges of an invoice are those of
its issue and its lines are for what was open of them; and an issue that fails leaves everything as it was, since each
of its statements but the commit writes nothing. -/
theorem invoicedOnce_of_reachable (h : (chargeMachine issuedAt MERCHANT_BILLING_DUE_DAYS).Reachable ok S) :
    InvoicedOnce S.committed ∧ ∀ w call stage, S.find? w = some (.issuing call stage) →
      (∀ S', (chargeMachine issuedAt MERCHANT_BILLING_DUE_DAYS).step S (.die w) = some S' →
        S'.committed = S.committed) ∧
      ∀ answer S', (chargeMachine issuedAt MERCHANT_BILLING_DUE_DAYS).step S (.go w answer) = some S' →
        S'.committed = S.committed ∨ Issued S S' call stage answer := by
  refine ⟨ChargeCase.invariant (fun _ hblank => hblank.invoicedOnce) (fun _ _ hwrite hs => hs.write hwrite) h,
    fun w call stage hfind => ⟨fun S' hdie => ?_, fun answer S' hgo => ?_⟩⟩
  · have hcase : (chargeWorkers issuedAt MERCHANT_BILLING_DUE_DAYS).StepCase S (.die w) S' := Workers.step_cases hdie
    cases hcase with
    | died => rfl
  · exact writes_of_issuing hfind (relies_of_reachable h _ (S.mem_of_find? hfind)) hgo

end Runs

/-! ## A run and an issue by hand -/

section Example

/-- The first charge is of the month that is closed, the second one of the month under way. -/
def devengo (id : Nat) : Instant := if id = 1 then 0 else 1790900000000

/-- Two instances start the run of the month and one of them claims it; somebody issues both charges by hand after the
run listed the first one, so the batch of the run fails. -/
def corridaYManual : Sessions ChargeDb ChargePoint :=
  (chargeMachine devengo 30).after ⟨sinCargos, []⟩ ([.outside (cargoDe50 1), .outside (cargoDe50 2),
    .start 1 (.ejecutar ⟨.schedule, none, 1790900000000⟩), .start 2 (.ejecutar ⟨.schedule, none, 1790900000000⟩),
    .start 3 (.issueInvoice ⟨7, none, 20728, 20758, [1, 2], none⟩)] ++ sentenciasDe 1 2 [] ++ sentenciasDe 2 1 [] ++
      sentenciasDe 3 5 [2, 1] ++ sentenciasDe 1 5 [1])

theorem invoicedOnce_of_reachable_corridaYManual :
    (corridaYManual.active.length = 0 ∧ corridaYManual.committed.issues.map (fun issue => (issue.invoiceId, issue.ids)) =
        [(1, [2, 1])] ∧ corridaYManual.committed.runs.rows.map (·.status) = [.failed]) ∧
      InvoicedOnce corridaYManual.committed := by
  have hreached : (chargeMachine devengo 30).Reachable (fun _ _ => True) corridaYManual :=
    (chargeMachine devengo 30).reachable_after ⟨sinCargos_blank, rfl⟩ _
  exact ⟨by decide +kernel, (invoicedOnce_of_reachable hreached).1⟩

end Example

end AtlasErp
