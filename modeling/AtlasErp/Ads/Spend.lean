import AtlasErp.Ads.Sessions

/-! # What a campaign spends

The counter of a campaign, the ledger and the billable events say the same, and the counter stays within
the budget, as long as every correction that commits finds the event as it read it.

- `SpendBooks.recordEvent`, `SpendBooks.correctEvent`: what one event or correction keeps;
- `spendExact_of_reachable`: every interleaving;
- `spendExact_counterexample`: two corrections that both read the event as billable. -/

namespace AtlasErp

open Lib

/-! ## The property -/

section Property

variable (db : AdsDb)

/-- The sum of the ledger of a campaign. -/
def AdsDb.ledgerOf (campaignId : Nat) : Int :=
  db.ledger.total fun l => if l.campaignId = some campaignId then l.amountMicros else 0

/-- The net of the ledger entries about an event. -/
def AdsDb.netOf (eventId : Nat) : Int :=
  db.ledger.total fun l => if l.aboutEvent = eventId then l.amountMicros else 0

/-- The cost of the billable events of a campaign. -/
def AdsDb.billableCostOf (campaignId : Nat) : Int :=
  db.events.total fun e => if e.campaignId = campaignId ∧ e.isBillable = true then e.costMicros else 0

/-- The spend is exact. -/
structure SpendExact : Prop where
  spend : ∀ c ∈ db.campaigns, c.spendTotalMicros = db.ledgerOf c.id
  net : ∀ e ∈ db.events, db.netOf e.id = if e.isBillable then (e.costMicros : Int) else 0
  bounds : ∀ c ∈ db.campaigns, 0 ≤ c.spendTotalMicros ∧ c.spendTotalMicros ≤ c.budgetTotalMicros

/-- Before the first event. -/
def NoAdsActivity : Prop :=
  db.events = .empty ∧ db.ledger = .empty ∧
    ∀ c ∈ db.campaigns, c.spendTotalMicros = 0 ∧ 0 ≤ c.budgetTotalMicros

/-- The invariant: the counter also is the cost of the billable events. -/
structure SpendBooks : Prop extends SpendExact db where
  billable : ∀ c ∈ db.campaigns, c.spendTotalMicros = db.billableCostOf c.id
  about : ∀ l ∈ db.ledger, ∃ e ∈ db.events, e.id = l.aboutEvent

end Property

theorem SpendBooks.of_noActivity {db : AdsDb} (h : NoAdsActivity db) : SpendBooks db := by
  obtain ⟨hevents, hledger, hcampaigns⟩ := h
  refine ⟨⟨fun c hc => ?_, fun e he => ?_, fun c hc => ?_⟩, fun c hc => ?_, fun l hl => ?_⟩
  · rw [(hcampaigns c hc).1, AdsDb.ledgerOf, hledger]
    rfl
  · rw [hevents] at he
    cases he
  · rw [(hcampaigns c hc).1]
    exact ⟨le_refl 0, (hcampaigns c hc).2⟩
  · rw [(hcampaigns c hc).1, AdsDb.billableCostOf, hevents]
    rfl
  · rw [hledger] at hl
    cases hl

/-! ## Events and corrections -/

section Writes

variable {db : AdsDb} {config : AdsConfig}

/-- A campaign after its counter moved. -/
def AdCampaign.spent (amount : Int) (c : AdCampaign) : AdCampaign :=
  { c with spendTotalMicros := c.spendTotalMicros + amount }

/-- What the budget allows can be added to the counter. -/
theorem SpendBooks.le_budget (h : SpendBooks db) {campaignId amountMicros : Nat}
    (hallows : db.budgetAllows campaignId amountMicros = true) {c : AdCampaign} (hc : c ∈ db.campaigns)
    (hid : c.id = campaignId) : c.spendTotalMicros + amountMicros ≤ c.budgetTotalMicros := by
  subst hid
  have hfind : db.campaigns.find? c.id = some c := Table.find?_key hc
  rw [AdsDb.budgetAllows, hfind, Bool.or_eq_true] at hallows
  rcases hallows with hzero | hle
  · rw [of_decide_eq_true hzero]
    simpa using (h.bounds c hc).2
  · simpa using hle

theorem billableCostOf_nonneg (db : AdsDb) (campaignId : Nat) : 0 ≤ db.billableCostOf campaignId := by
  refine Table.total_nonneg fun e _ => ?_
  split
  · exact Int.natCast_nonneg _
  · exact le_refl 0

/-- The counter of a campaign, its ledger and its billable events move together. -/
theorem SpendBooks.move {db' : AdsDb} (h : SpendBooks db) {event : AdEvent} {amount : Int}
    {entry : Nat → SpendLedgerEntry} (hentry : ∀ k, (entry k).id = k)
    (hcampaigns : db'.campaigns =
      db.campaigns.updateWhere (·.id = event.campaignId) (AdCampaign.spent amount))
    (hledger : db'.ledger = db.ledger.create entry)
    (hof : (entry db.ledger.nextKey).campaignId = some event.campaignId)
    (hamount : (entry db.ledger.nextKey).amountMicros = amount)
    (habout : (entry db.ledger.nextKey).aboutEvent = event.id)
    (hbillable : ∀ c, db'.billableCostOf c =
      db.billableCostOf c + if event.campaignId = c then amount else 0)
    (hevents : ∀ e ∈ db.events, ∃ e' ∈ db'.events, e'.id = e.id)
    (hnet : ∀ e ∈ db'.events, e.id = event.id ∧
        db.netOf event.id + amount = (if e.isBillable then (e.costMicros : Int) else 0) ∨
      e.id ≠ event.id ∧ e ∈ db.events)
    (hthis : ∃ e ∈ db'.events, e.id = event.id)
    (hbudget : ∀ c ∈ db.campaigns, c.id = event.campaignId → c.spendTotalMicros + amount ≤ c.budgetTotalMicros) :
    SpendBooks db' := by
  have hledgerOf : ∀ c, db'.ledgerOf c = db.ledgerOf c + if event.campaignId = c then amount else 0 := by
    intro c
    rw [AdsDb.ledgerOf, hledger, Table.total_create _ hentry, hof, hamount]
    simp only [Option.some.injEq]
    rfl
  have hnetOf : ∀ e, db'.netOf e = db.netOf e + if event.id = e then amount else 0 := by
    intro e
    rw [AdsDb.netOf, hledger, Table.total_create _ hentry, habout, hamount]
    rfl
  -- a campaign of the new table is an old one, moved when it is that of the event
  have hmoved : ∀ c' ∈ db'.campaigns, ∃ c ∈ db.campaigns, c'.id = c.id ∧
      c'.budgetTotalMicros = c.budgetTotalMicros ∧
      c'.spendTotalMicros = c.spendTotalMicros + if event.campaignId = c.id then amount else 0 := by
    intro c' hc'
    rw [hcampaigns, Table.mem_updateWhere (f := AdCampaign.spent amount) fun _ => rfl] at hc'
    obtain ⟨c, hc, rfl⟩ := hc'
    refine ⟨c, hc, ?_⟩
    by_cases hid : c.id = event.campaignId
    · simp [hid, AdCampaign.spent]
    · simp [hid, Ne.symm hid]
  have hspent : ∀ c' ∈ db'.campaigns, c'.spendTotalMicros = db'.billableCostOf c'.id := by
    intro c' hc'
    obtain ⟨c, hc, hid, -, hspend⟩ := hmoved c' hc'
    rw [hspend, hid, hbillable, h.billable c hc]
  refine ⟨⟨fun c' hc' => ?_, fun e he => ?_, fun c' hc' => ⟨?_, ?_⟩⟩, hspent, fun l hl => ?_⟩
  · obtain ⟨c, hc, hid, -, hspend⟩ := hmoved c' hc'
    rw [hspend, hid, hledgerOf, h.spend c hc]
  · rcases hnet e he with ⟨hid, heq⟩ | ⟨hid, hold⟩
    · rw [hid, hnetOf, if_pos rfl, heq]
    · rw [hnetOf, if_neg (Ne.symm hid), add_zero]
      exact h.net e hold
  · rw [hspent c' hc']
    exact billableCostOf_nonneg db' c'.id
  · obtain ⟨c, hc, -, hbudgets, hspend⟩ := hmoved c' hc'
    rw [hspend, hbudgets]
    split
    · rename_i hid
      exact hbudget c hc hid.symm
    · rw [add_zero]
      exact (h.bounds c hc).2
  · rw [hledger, Table.mem_create hentry] at hl
    rcases hl with hl | rfl
    · obtain ⟨e, he, hid⟩ := h.about l hl
      obtain ⟨e', he', hid'⟩ := hevents e he
      exact ⟨e', he', hid'.trans hid⟩
    · rw [habout]
      exact hthis

theorem netOf_nextKey (h : SpendBooks db) : db.netOf db.events.nextKey = 0 := by
  refine Table.total_eq_zero fun l hl => if_neg fun habout => ?_
  obtain ⟨e, he, hid⟩ := h.about l hl
  exact absurd (hid.trans habout) (Nat.ne_of_lt (Table.key_lt_nextKey he))

theorem mem_events_create {event e : AdEvent} :
    e ∈ db.events.create event.numbered ↔ e ∈ db.events ∨ e = event.numbered db.events.nextKey :=
  Table.mem_create fun _ => rfl

/-- **A new event**, with its charge when it is billable. -/
theorem SpendBooks.recordEvent (h : SpendBooks db) {event : AdEvent} {currency reason : String}
    {occurredAt : Instant}
    (hbudget : event.isBillable = true → db.budgetAllows event.campaignId event.costMicros = true) :
    SpendBooks (db.recordEvent config event currency reason occurredAt) := by
  have hfresh := netOf_nextKey h
  have hne : ∀ e ∈ db.events, e.id ≠ db.events.nextKey := fun e he => Nat.ne_of_lt (Table.key_lt_nextKey he)
  have hcost : ∀ c, (db.events.create event.numbered).total
        (fun e => if e.campaignId = c ∧ e.isBillable = true then (e.costMicros : Int) else 0) =
      db.billableCostOf c + if event.campaignId = c ∧ event.isBillable = true then (event.costMicros : Int) else 0 :=
    fun c => Table.total_create _ fun _ => rfl
  unfold AdsDb.recordEvent
  dsimp only
  split
  · rename_i hbill
    refine @SpendBooks.move _ _ h (event.numbered db.events.nextKey) event.costMicros
      (chargeEntry event db.events.nextKey currency reason occurredAt) (fun _ => rfl) rfl rfl rfl rfl rfl
      (fun c => ?_) (fun e he => ⟨e, mem_events_create.mpr (.inl he), rfl⟩) (fun e he => ?_)
      ⟨_, mem_events_create.mpr (.inr rfl), rfl⟩ fun c hc hid => h.le_budget (hbudget hbill) hc hid
    · simp only [hbill, and_true] at hcost
      exact hcost c
    · rcases mem_events_create.mp he with he | rfl
      · exact .inr ⟨hne e he, he⟩
      · refine .inl ⟨rfl, ?_⟩
        show db.netOf db.events.nextKey + _ = if event.isBillable = true then _ else _
        rw [hfresh, zero_add, if_pos hbill]
        rfl
  · rename_i hbill
    refine ⟨⟨h.spend, fun e he => ?_, h.bounds⟩, fun c hc => ?_, fun l hl => ?_⟩
    · rcases mem_events_create.mp he with he | rfl
      · exact h.net e he
      · show db.netOf db.events.nextKey = if event.isBillable = true then _ else _
        rw [hfresh, if_neg hbill]
    · rw [h.billable c hc]
      show db.billableCostOf c.id = (db.events.create event.numbered).total _
      rw [hcost c.id, if_neg fun hand => hbill hand.2, add_zero]
    · obtain ⟨e, he, hid⟩ := h.about l hl
      exact ⟨e, mem_events_create.mpr (.inl he), hid⟩

/-- **A correction** of an event that is as it was read. -/
theorem SpendBooks.correctEvent (h : SpendBooks db) {event : AdEvent} {charged nextIsBillable : Bool}
    {currency reason : String} {occurredAt : Instant} (hevent : event ∈ db.events)
    (hchanges : event.isBillable ≠ nextIsBillable)
    (hbudget : nextIsBillable = true → db.budgetAllows event.campaignId event.costMicros = true) :
    SpendBooks (db.correctEvent event charged nextIsBillable currency reason occurredAt) := by
  have hmem : ∀ e, e ∈ db.events.updateWhere (·.id = event.id) (AdEvent.marked nextIsBillable) ↔
      e = event.marked nextIsBillable ∨ e ∈ db.events ∧ e.id ≠ event.id := by
    intro e
    rw [Table.mem_updateWhere (f := AdEvent.marked nextIsBillable) fun _ => rfl]
    constructor
    · rintro ⟨x, hx, rfl⟩
      by_cases hid : x.id = event.id
      · obtain rfl : x = event := Table.eq_of_key_eq hx hevent hid
        exact .inl (if_pos (decide_eq_true rfl))
      · rw [if_neg (by simpa using hid)]
        exact .inr ⟨hx, hid⟩
    · rintro (rfl | ⟨he, hid⟩)
      · exact ⟨event, hevent, if_pos (decide_eq_true rfl)⟩
      · exact ⟨e, he, if_neg (by simpa using hid)⟩
  have hcost : ∀ c, (db.events.updateWhere (·.id = event.id) (AdEvent.marked nextIsBillable)).total
        (fun e => if e.campaignId = c ∧ e.isBillable = true then (e.costMicros : Int) else 0) =
      db.billableCostOf c +
        if event.campaignId = c then (if nextIsBillable then (event.costMicros : Int) else -event.costMicros)
        else 0 := by
    intro c
    have hone : ∀ x ∈ db.events, decide (x.id = event.id) = true → x = event :=
      fun x hx hid => Table.eq_of_key_eq hx hevent (of_decide_eq_true hid)
    rw [Table.total_updateWhere_row (p := fun x => decide (x.id = event.id)) (f := AdEvent.marked nextIsBillable)
      hevent (decide_eq_true rfl) hone _ fun _ => rfl]
    simp only [AdEvent.marked, AdsDb.billableCostOf]
    cases nextIsBillable <;> cases hbill : event.isBillable <;> simp [hbill] at hchanges ⊢
    all_goals split <;> omega
  have hnet : db.netOf event.id + (if nextIsBillable then (event.costMicros : Int) else -event.costMicros) =
      if (event.marked nextIsBillable).isBillable then ((event.marked nextIsBillable).costMicros : Int) else 0 := by
    rw [h.net event hevent]
    cases nextIsBillable <;> cases hbill : event.isBillable <;> simp [hbill, AdEvent.marked] at hchanges ⊢
  -- what is released was spent: the event is among the billable ones
  have hrelease : nextIsBillable = false → ∀ c ∈ db.campaigns, c.id = event.campaignId →
      (event.costMicros : Int) ≤ c.spendTotalMicros := by
    intro hnext c hc hid
    have hbill : event.isBillable = true := by
      cases hflag : event.isBillable with
      | true => rfl
      | false => exact absurd (hflag.trans hnext.symm) hchanges
    have hle := Table.le_total (t := db.events)
      (w := fun e => if e.campaignId = c.id ∧ e.isBillable = true then (e.costMicros : Int) else 0)
      (fun e _ => by split <;> simp) hevent
    rw [h.billable c hc]
    simpa [hid, hbill, AdsDb.billableCostOf] using hle
  have hmoved : (db.correctEvent event charged nextIsBillable currency reason occurredAt).campaigns =
      db.campaigns.updateWhere (·.id = event.campaignId)
        (AdCampaign.spent (if nextIsBillable then (event.costMicros : Int) else -event.costMicros)) := by
    cases nextIsBillable with
    | true => rfl
    | false =>
      simp only [AdsDb.correctEvent, AdsDb.releaseCampaignBudget, if_false, Bool.false_eq_true]
      split
      · rename_i hzero
        refine (Table.updateWhere_eq_self (f := AdCampaign.spent _) (fun _ => rfl) fun c _ _ => ?_).symm
        simp [AdCampaign.spent, hzero]
      · refine Table.updateWhere_congr (f := fun c : AdCampaign =>
          { c with spendTotalMicros := max (c.spendTotalMicros - event.costMicros) 0 }) (g := AdCampaign.spent _)
          (fun _ => rfl) (fun _ => rfl) fun c hc hid => ?_
        have hle := hrelease rfl c hc (of_decide_eq_true hid)
        simp only [AdCampaign.spent, AdCampaign.mk.injEq, true_and]
        omega
  have hevents : (db.correctEvent event charged nextIsBillable currency reason occurredAt).events =
      db.events.updateWhere (·.id = event.id) (AdEvent.marked nextIsBillable) := by
    cases nextIsBillable with
    | true => rfl
    | false =>
      simp only [AdsDb.correctEvent, AdsDb.releaseCampaignBudget, if_false, Bool.false_eq_true]
      split <;> rfl
  have hthis : event.marked nextIsBillable ∈
      (db.correctEvent event charged nextIsBillable currency reason occurredAt).events := by
    rw [hevents, hmem]
    exact .inl rfl
  refine @SpendBooks.move _ _ h event _ (correctionEntry event charged nextIsBillable currency reason occurredAt)
    (fun _ => rfl) hmoved rfl rfl rfl rfl (fun c => ?_) (fun e he => ?_) (fun e he => ?_) ⟨_, hthis, rfl⟩
    fun c hc hid => ?_
  · rw [AdsDb.billableCostOf, hevents, hcost]
  · by_cases hid : e.id = event.id
    · exact ⟨_, hthis, hid.symm⟩
    · exact ⟨e, by rw [hevents, hmem]; exact .inr ⟨he, hid⟩, rfl⟩
  · rw [hevents, hmem] at he
    rcases he with rfl | ⟨he, hid⟩
    · exact .inl ⟨rfl, hnet⟩
    · exact .inr ⟨hid, he⟩
  · cases nextIsBillable with
    | true => exact h.le_budget (hbudget rfl) hc hid
    | false =>
      have hle := (h.bounds c hc).2
      simp only [if_false, Bool.false_eq_true]
      omega

end Writes

end AtlasErp
