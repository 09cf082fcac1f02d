import AtlasErp.Ads.BilledOnce

/-! # What an invoice of a period bills, under concurrency

A closing reads the ledger before its transaction begins, and looks for overlapping invoices before it
writes its own.  Nothing keeps other transactions from writing in between.

- `ClosesUndisturbed`: what a statement must find;
- `billedOnce_of_reachable`: then each ledger entry is billed once and for its net;
- `billedOnce_counterexample`: two closings of overlapping periods. -/

namespace AtlasErp

open Lib

section Closing

/-- The advertiser and the currency of an invoice that an entry writes. -/
def AdsWrite.invoiceKey : AdsWrite → Option (Nat × String)
  | .invoice draft _ => some (draft.advertiserId, draft.currency)
  | _ => none

/-- The invoices that a stage is still to write. -/
def AdsStage.groups : AdsStage → List LedgerInvoiceGroup
  | .grouped _ _ groups | .invoicing _ _ _ groups => groups
  | .numbering _ _ _ _ group rest => group :: rest
  | _ => []

/-- The stages of a closing. -/
def AdsStage.closes : AdsStage → Bool
  | .closing .. | .grouped .. | .invoicing .. | .numbering .. => true
  | _ => false

/-- The amounts of a draft: its net, and charges that are close to it. -/
def DraftCharges (draft : AdsInvoice) (charges : List MerchantCharge) : Prop :=
  draft.subtotalMicros = (draft.entries.map (·.amountMicros)).sum ∧
    |(charges.map (·.amount)).sum * 10000 - draft.subtotalMicros| ≤ 5000 * charges.length

/-- What the journal of a closing is, and what is still to be written. -/
structure ClosingPlan (p : AdsPoint) : Prop where
  kind : ∀ w ∈ p.journal, w.invoiceKey.isSome = p.stage.closes
  first : ∀ input now, p.stage = .closing input now → p.journal = []
  drafts : ∀ draft charges, .invoice draft charges ∈ p.journal → DraftCharges draft charges
  groups : ∀ g ∈ p.stage.groups, g.subtotalMicros = (g.entries.map (·.amountMicros)).sum
  apart : (p.journal.filterMap AdsWrite.invoiceKey ++
    p.stage.groups.map fun g => (g.advertiserId, g.currency)).Nodup

/-! ## The condition on a step -/

/-- What is not carried to the merchant adds up to nothing. -/
def CarriesAll (products : List AdsBillingProduct) (merchantAccountId : Option Nat)
    (lines : List LedgerGroupRow) : Prop :=
  uncarriedMicros products lines = 0 ∧
    (merchantAccountId = none → ∀ line ∈ lines, consumedProduct products line = none)

instance (products : List AdsBillingProduct) (merchantAccountId : Option Nat) (lines : List LedgerGroupRow) :
    Decidable (CarriesAll products merchantAccountId lines) :=
  inferInstanceAs (Decidable (_ ∧ _))

/-- What an entry must find when it is committed: a charge, no invoice of its period; an invoice, the
ledger as it was read and no other invoice that overlaps. -/
def AdsWrite.Undisturbed : AdsWrite → AdsDb → Prop
  | .record event currency _ occurredAt, s =>
    event.isBillable = true → Uninvoiced s event.advertiserId currency occurredAt
  | .correct c, s => Uninvoiced s c.event.advertiserId c.currency c.occurredAt
  | .invoice draft _, s =>
    draft.entries = s.ledger.rowsWhere draft.bills ∧
      ∀ i ∈ s.invoices, i.advertiserId = draft.advertiserId →
        i.overlaps draft.periodStart draft.periodEnd = false

instance AdsWrite.decidableUndisturbed (w : AdsWrite) (s : AdsDb) : Decidable (w.Undisturbed s) :=
  match w with
  | .record .. => inferInstanceAs (Decidable (_ → _))
  | .correct c => inferInstanceAs (Decidable (Uninvoiced s c.event.advertiserId c.currency c.occurredAt))
  | .invoice .. => inferInstanceAs (Decidable (_ ∧ ∀ i ∈ s.invoices.rows, _ → _))

variable (config : AdsConfig)

/-- The condition on a step: an invoice is carried to the merchant, and a commit finds what it relies on. -/
def ClosesUndisturbed (p : AdsPoint) (s : AdsDb) : Prop :=
  (match p.stage with
    | .numbering _ _ products _ group _ =>
      CarriesAll products
        (findMerchantAccountId ((adsScript config).program.writes p s) group.advertiserId) group.lines
    | _ => True) ∧
  ((adsScript config).program.next p ((adsScript config).program.writes p s) = .commit →
    ∀ w ∈ p.journal, w.Undisturbed s)

instance (p : AdsPoint) (s : AdsDb) : Decidable (ClosesUndisturbed config p s) :=
  have : Decidable (match p.stage with
    | .numbering _ _ products _ group _ =>
      CarriesAll products
        (findMerchantAccountId ((adsScript config).program.writes p s) group.advertiserId) group.lines
    | _ => True) := by
    split <;> infer_instance
  inferInstanceAs (Decidable (_ ∧ (_ → _)))

variable {config}

/-! ## What a closing writes -/

/-- The charges of a draft are close to its net when all of it is carried. -/
theorem draftCharges_invoiceOf {input : PeriodCloseDto} {products : List AdsBillingProduct}
    {group : LedgerInvoiceGroup} {profile : BillingProfile} {invoiceNumber : List Char}
    {merchantAccountId : Option Nat} (hnet : group.subtotalMicros = (group.entries.map (·.amountMicros)).sum)
    (hcarries : CarriesAll products merchantAccountId group.lines) :
    DraftCharges (invoiceOf config input products group profile invoiceNumber 0)
      (merchantCharges merchantAccountId (consumedByProduct products group.lines)) := by
  refine ⟨hnet, ?_⟩
  show |_ - group.subtotalMicros| ≤ _
  have hsum := @sum_consumedByProduct products group.lines
  rw [hcarries.1, add_zero] at hsum
  have hsubtotal : group.subtotalMicros = ((consumedByProduct products group.lines).map (·.2)).sum := hsum.symm
  cases merchantAccountId with
  | some accountId =>
    rw [hsubtotal]
    exact sum_merchantCharges_close accountId _
  | none =>
    have hall : uncarriedMicros products group.lines = group.subtotalMicros := by
      unfold uncarriedMicros LedgerInvoiceGroup.subtotalMicros
      rw [List.filter_eq_self.mpr fun line hline => by simp [hcarries.2 rfl line hline]]
    rw [← hall, hcarries.1]
    simp [merchantCharges]

section Statement

variable {held : List AdsLock} {journal : List AdsWrite} {stage stage' : AdsStage} {locks : List AdsLock}

/-- A statement that writes nothing and keeps what is still to be written. -/
theorem ClosingPlan.quiet (h : ClosingPlan ⟨held, journal, stage⟩) (hcloses : stage'.closes = stage.closes)
    (hgroups : stage'.groups = stage.groups) (hfirst : ∀ input now, stage' ≠ .closing input now) :
    ClosingPlan ⟨locks ++ held, journal ++ [], stage'⟩ := by
  rw [List.append_nil]
  refine ⟨fun w hw => ?_, fun input now hstage => absurd hstage (hfirst input now), h.drafts, ?_, ?_⟩
  · rw [hcloses]
    exact h.kind w hw
  · rw [hgroups]
    exact h.groups
  · rw [hgroups]
    exact h.apart

/-- A statement that writes an entry that is no invoice. -/
theorem ClosingPlan.write (h : ClosingPlan ⟨held, journal, stage⟩) {w : AdsWrite} (hw : w.invoiceKey = none)
    (hopen : stage.closes = false) (hcloses : stage'.closes = false) (hgroups : stage'.groups = []) :
    ClosingPlan ⟨locks ++ held, journal ++ [w], stage'⟩ := by
  have hkind : ∀ w' ∈ journal ++ [w], w'.invoiceKey = none := by
    intro w' hw'
    rcases List.mem_append.mp hw' with hw' | hw'
    · have hsome := h.kind w' hw'
      rw [hopen] at hsome
      exact Option.isSome_eq_false_iff.mp hsome |> Option.isNone_iff_eq_none.mp
    · rw [List.mem_singleton.mp hw', hw]
  refine ⟨fun w' hw' => ?_, fun input now hstage => ?_, fun draft charges hmem => ?_, fun g hg => ?_, ?_⟩
  · rw [hkind w' hw', hcloses]
    rfl
  · rw [show stage' = .closing input now from hstage] at hcloses
    cases hcloses
  · cases hkind _ hmem
  · rw [show stage'.groups = [] from hgroups] at hg
    cases hg
  · rw [List.filterMap_eq_nil_iff.mpr hkind, hgroups]
    exact List.nodup_nil

end Statement

/-- **One statement** of a closing that is carried to the merchant keeps its plan. -/
theorem ClosingPlan.goto {p p' : AdsPoint} {s : AdsDb} (h : ClosingPlan p) (hok : ClosesUndisturbed config p s)
    (hnext : (adsScript config).program.next p ((adsScript config).program.writes p s) = .goto p') :
    ClosingPlan p' := by
  obtain ⟨locks, writes, hmove, hheld, hjournal⟩ := Script.follow_eq_goto hnext
  have hcarries := hok.1
  obtain ⟨held, journal, stage⟩ := p
  obtain ⟨held', journal', stage'⟩ := p'
  obtain rfl : held' = locks ++ held := hheld
  obtain rfl : journal' = journal ++ writes := hjournal
  have hmoves : AdsMoves config ((adsScript config).replay journal s) stage locks writes stage' :=
    adsMove_cases config hmove
  clear hnext hmove hok
  cases hmoves with
  | decide | repeated | reserve | skip | readEvent | reserveAgain | unmark | mark | release =>
    exact h.quiet rfl rfl fun _ _ => AdsStage.noConfusion
  | record | chargeAgain | credit => exact h.write rfl rfl rfl rfl
  | check | profile => exact h.quiet rfl rfl fun _ _ => AdsStage.noConfusion
  | @group input now =>
    obtain rfl := h.first input now rfl
    refine ⟨fun w hw => absurd hw List.not_mem_nil, fun _ _ => AdsStage.noConfusion,
      fun _ _ hmem => absurd hmem List.not_mem_nil, fun g hg => subtotal_invoiceGroup hg, ?_⟩
    exact nodup_invoiceGroups _
  | @invoice input now products profile group rest invoiceNumber locks =>
    have hdraft := @draftCharges_invoiceOf config input _ _ profile invoiceNumber _
      (h.groups group List.mem_cons_self) hcarries
    refine ⟨fun w hw => ?_, fun _ _ => AdsStage.noConfusion, fun draft charges hmem => ?_,
      fun g hg => h.groups g (List.mem_cons_of_mem group hg), ?_⟩
    · rcases List.mem_append.mp hw with hw | hw
      · exact h.kind w hw
      · rw [List.mem_singleton.mp hw]
        rfl
    · rcases List.mem_append.mp hmem with hmem | hmem
      · exact h.drafts draft charges hmem
      · obtain ⟨rfl, rfl⟩ := AdsWrite.invoice.inj (List.mem_singleton.mp hmem)
        exact hdraft
    · -- the invoice that was still to be written has moved to the journal
      have hapart := h.apart
      simp only [AdsStage.groups, List.map_cons] at hapart
      simpa [List.filterMap_append, AdsWrite.invoiceKey, invoiceOf, AdsStage.groups] using hapart

/-! ## Commits -/

/-- What an entry needs to keep the books. -/
def KeepsBilling : AdsWrite → AdsDb → Prop
  | .invoice draft charges, s => DraftFits s draft charges
  | w, s => w.Undisturbed s

theorem invoices_correctEvent (db : AdsDb) (c : Correction) :
    (db.correctEvent c.event c.charged c.nextIsBillable c.currency c.reason c.occurredAt).invoices = db.invoices ∧
      (db.correctEvent c.event c.charged c.nextIsBillable c.currency c.reason c.occurredAt).receivables =
        db.receivables := by
  simp only [AdsDb.correctEvent, AdsDb.releaseCampaignBudget]
  split
  · exact ⟨rfl, rfl⟩
  · split <;> exact ⟨rfl, rfl⟩

/-- **One entry** keeps the books. -/
theorem PeriodBooks.apply {w : AdsWrite} {s : AdsDb} (hw : KeepsBilling w s) (h : PeriodBooks s) :
    PeriodBooks ((adsScript config).apply w s) := by
  cases w with
  | record event currency reason occurredAt =>
    show PeriodBooks (s.recordEvent config event currency reason occurredAt)
    unfold AdsDb.recordEvent
    dsimp only
    split
    · rename_i hbill
      exact @PeriodBooks.addEntry _ _ h (chargeEntry event s.events.nextKey currency reason occurredAt) (fun _ => rfl)
        rfl rfl rfl fun i hi hlive => (hw hbill).not_bills rfl rfl rfl hi hlive
    · exact ⟨h.billed, h.apart, fun i hi => ⟨(h.charges i hi).net, (h.charges i hi).receivables⟩, h.sources⟩
  | correct c =>
    obtain ⟨hinvoices, hreceivables⟩ := invoices_correctEvent s c
    exact @PeriodBooks.addEntry _ _ h
      (correctionEntry c.event c.charged c.nextIsBillable c.currency c.reason c.occurredAt)
      (fun _ => rfl) rfl hinvoices hreceivables fun i hi hlive => hw.not_bills rfl rfl rfl hi hlive
  | invoice draft charges => exact h.recordInvoice hw

/-- An entry that is no invoice leaves the invoices. -/
theorem invoices_apply {w : AdsWrite} (hw : w.invoiceKey = none) (s : AdsDb) :
    ((adsScript config).apply w s).invoices = s.invoices := by
  cases w with
  | record event currency reason occurredAt =>
    simp only [adsScript, AdsWrite.apply, AdsDb.recordEvent]
    split <;> rfl
  | correct c => exact (invoices_correctEvent s c).1
  | invoice draft charges => cases hw

/-- The invoices of a closing fit one after the other: each is for an advertiser and a currency of its own. -/
theorem fits_invoices {s : AdsDb} {ws : List AdsWrite} (hkind : ∀ w ∈ ws, w.invoiceKey.isSome = true)
    (hdrafts : ∀ draft charges, .invoice draft charges ∈ ws → DraftCharges draft charges)
    (hfind : ∀ w ∈ ws, w.Undisturbed s) {done : List (Nat × String)}
    (hapart : (done ++ ws.filterMap AdsWrite.invoiceKey).Nodup) {s' : AdsDb} (hledger : s'.ledger = s.ledger)
    (hinvoices : ∀ i ∈ s'.invoices, i ∈ s.invoices ∨ (i.advertiserId, i.currency) ∈ done) :
    (adsScript config).Fits KeepsBilling ws s' := by
  induction ws generalizing done s' with
  | nil => trivial
  | cons w ws ih =>
    cases w with
    | record => cases hkind _ List.mem_cons_self
    | correct => cases hkind _ List.mem_cons_self
    | invoice draft charges =>
      obtain ⟨hentries, hfree⟩ := hfind _ List.mem_cons_self
      obtain ⟨hnet, hclose⟩ := hdrafts draft charges List.mem_cons_self
      have hkey : (draft.advertiserId, draft.currency) ∉ done := by
        intro hmem
        have hdisjoint := (List.nodup_append'.mp hapart).2.2
        exact hdisjoint hmem (by simp [AdsWrite.invoiceKey])
      refine ⟨⟨fun i hi _ hadvertiser hcurrency => ?_, ?_, hnet, hclose⟩, ?_⟩
      · rcases hinvoices i hi with hi | hi
        · exact hfree i hi hadvertiser
        · rw [hadvertiser, hcurrency] at hi
          exact absurd hi hkey
      · rw [hledger]
        exact hentries
      · refine @ih (fun w hw => hkind w (List.mem_cons_of_mem _ hw))
          (fun d c hd => hdrafts d c (List.mem_cons_of_mem _ hd))
          (fun w hw => hfind w (List.mem_cons_of_mem _ hw))
          (done ++ [(draft.advertiserId, draft.currency)]) ?_ _ hledger fun i hi => ?_
        · simpa [AdsWrite.invoiceKey] using hapart
        · rcases (Table.mem_create fun _ => rfl).mp hi with hi | rfl
          · exact (hinvoices i hi).imp id (List.mem_append_left _)
          · exact .inr (List.mem_append_right _ (List.mem_singleton.mpr rfl))

/-- The journal of a transaction keeps the books when it finds what it relies on. -/
theorem ClosingPlan.keepsBilling {p : AdsPoint} {s : AdsDb} (h : ClosingPlan p)
    (hfind : ∀ w ∈ p.journal, w.Undisturbed s) : (adsScript config).Fits KeepsBilling p.journal s := by
  cases hcloses : p.stage.closes with
  | true =>
    refine @fits_invoices _ _ _ (fun w hw => (h.kind w hw).trans hcloses) h.drafts hfind [] ?_ _ rfl
      fun i hi => .inl hi
    exact (List.nodup_append'.mp h.apart).1
  | false =>
    have hkind : ∀ w ∈ p.journal, w.invoiceKey = none := fun w hw =>
      Option.isNone_iff_eq_none.mp (Option.isSome_eq_false_iff.mp ((h.kind w hw).trans hcloses))
    refine Script.fits_of_invariant (S := adsScript config) (I := fun s' => s'.invoices = s.invoices)
      (fun w hw s' hs' => (invoices_apply (hkind w hw) s').trans hs') (fun w hw s' hs' => ?_) rfl
    have hfound := hfind w hw
    cases w with
    | record event currency reason occurredAt =>
      intro hbill i hi
      rw [hs'] at hi
      exact hfound hbill i hi
    | correct c =>
      intro i hi
      rw [hs'] at hi
      exact hfound i hi
    | invoice draft charges => cases hkind _ hw

/-- **The discipline of the three requests**, which rely on no lock. -/
theorem ads_closing_disciplined :
    (adsScript config).program.DisciplinedIf (ClosesUndisturbed config) PeriodBooks (fun p _ => ClosingPlan p)
      fun _ _ _ => True where
  start request s _ := by
    refine ⟨fun w hw => absurd hw List.not_mem_nil, fun _ _ _ => rfl, fun _ _ hmem => absurd hmem List.not_mem_nil,
      fun g hg => ?_, ?_⟩
    · cases request <;> cases hg
    · cases request <;> exact List.nodup_nil
  goto _ h hok hnext := h.goto hok hnext
  commit hbooks h hok hnext := (h.keepsBilling (hok.2 hnext)).replay (fun _ _ hw h => h.apply hw) hbooks
  guarded _ _ _ _ _ _ := trivial
  locked _ h := h

/-- **Advertising is billed once and for its net.** In every interleaving in which each commit finds what
it relies on and what is invoiced is carried to the merchant, a ledger entry is in one invoice that is not
void at most, is in the invoice of its period, and the merchant is charged the subtotal up to half a cent
for each charge. -/
theorem billedOnce_of_reachable {S : AdsSessions}
    (h : ((adsScript config).program.machine NoAdsInvoices).Reachable (Program.Meets (ClosesUndisturbed config)) S) :
    BilledOnce S.committed :=
  (Program.serves_if ads_closing_disciplined (fun _ hinit => .of_noInvoices hinit) h).1.billedOnce

end Closing

section Examples

/-- The first day, and the first two days. -/
def firstDay : PeriodCloseDto := ⟨0, 0, none, by decide⟩

def firstTwoDays : PeriodCloseDto := ⟨0, 1, none, by decide⟩

/-- Both closings look for invoices before either is there. -/
def closedTwice : List (Act AdsRequest) :=
  trackedClick ++
    [.start 2 (.closePeriod firstDay 172800000), .advance 2, .advance 2,
      .start 3 (.closePeriod firstTwoDays 172800000), .advance 3, .advance 3] ++
    List.replicate 3 (.advance 2) ++ List.replicate 3 (.advance 3)

/-- One closing. -/
def closedOnce : List (Act AdsRequest) :=
  trackedClick ++ .start 2 (.closePeriod firstDay 172800000) :: List.replicate 5 (.advance 2)

/-- **A click billed twice**, by two closings of overlapping periods. -/
theorem billedOnce_counterexample :
    ¬ ∀ S, ((adsScript exampleAdsConfig).program.machine NoAdsInvoices).Reachable (fun _ _ => True) S →
      BilledOnce S.committed := by
  intro h
  have hinit : ((adsScript exampleAdsConfig).program.machine NoAdsInvoices).init ⟨exampleAdsDb, []⟩ :=
    ⟨⟨rfl, by decide⟩, rfl⟩
  have honce := (h _ (Machine.reachable_after _ hinit closedTwice)).once
  have htwice : ∃ i ∈ (((adsScript exampleAdsConfig).program.machine NoAdsInvoices).after ⟨exampleAdsDb, []⟩
        closedTwice).committed.invoices.rows,
      ∃ j ∈ (((adsScript exampleAdsConfig).program.machine NoAdsInvoices).after ⟨exampleAdsDb, []⟩
        closedTwice).committed.invoices.rows,
      i.status ≠ .void ∧ j.status ≠ .void ∧
        ∃ l ∈ (((adsScript exampleAdsConfig).program.machine NoAdsInvoices).after ⟨exampleAdsDb, []⟩
          closedTwice).committed.ledger.rows, l ∈ i.entries ∧ l ∈ j.entries ∧ i ≠ j := by
    decide +kernel
  obtain ⟨i, hi, j, hj, hlive, hlive', l, hl, hli, hlj, hne⟩ := htwice
  exact hne (honce i hi j hj hlive hlive' l hl hli hlj)

/-- A closing on its own. -/
theorem billedOnce_of_reachable_closed :
    ∃ S, ((adsScript exampleAdsConfig).program.machine NoAdsInvoices).Reachable
        (Program.Meets (ClosesUndisturbed exampleAdsConfig)) S ∧
      S.committed.invoices.rows.map (·.subtotalMicros) = [500000] ∧
      S.committed.receivables.rows.map (·.amountOriginal) = [50] ∧ BilledOnce S.committed := by
  have hinit : ((adsScript exampleAdsConfig).program.machine NoAdsInvoices).init ⟨exampleAdsDb, []⟩ :=
    ⟨⟨rfl, by decide⟩, rfl⟩
  have hreach := Machine.reachable_afterIf ((adsScript exampleAdsConfig).program.machine NoAdsInvoices)
    (Program.Meets (ClosesUndisturbed exampleAdsConfig)) hinit closedOnce
  exact ⟨_, hreach, by decide +kernel, by decide +kernel, billedOnce_of_reachable hreach⟩

end Examples

end AtlasErp
