import AtlasErp.Ads.SpendSessions

/-! # The daily metrics of a campaign

Tracking adds each event to the counters of its day; a correction of the billable flag does not touch them.

- `Aggregates`: a counter of the metrics and what an event adds to it;
- `DailyBooks.recordEvent`, `DailyBooks.correctEvent`: what one event, and one correction, keep;
- `dailyMetrics_agree`: every interleaving in which no correction that commits changes an event with a placement;
- `dailyMetrics_counterexample`: a click that is marked as fraud stays in the spend of its day. -/

namespace AtlasErp

open Lib

/-! ## The property -/

/-- What an event with a placement adds to a counter of a campaign, while it is billable. -/
def AdEvent.aggregated (e : AdEvent) (campaignId : Nat) (value : Int) : Int :=
  if e.campaignId = campaignId ∧ e.isBillable = true ∧ e.placementId.isSome = true then value else 0

def DailyMetric.spendOf (campaignId : Nat) (m : DailyMetric) : Int :=
  if m.campaignId = campaignId then m.spendMicros else 0

def DailyMetric.billableOf (campaignId : Nat) (m : DailyMetric) : Int :=
  if m.campaignId = campaignId then m.billableEvents else 0

/-- The counters of a campaign, over its days, are the cost and the number of its billable events. -/
structure MetricsAgree (db : AdsDb) (campaignId : Nat) : Prop where
  spend : (db.metrics.map (DailyMetric.spendOf campaignId)).sum =
    db.events.total fun e => e.aggregated campaignId e.costMicros
  billable : (db.metrics.map (DailyMetric.billableOf campaignId)).sum =
    db.events.total fun e => e.aggregated campaignId 1

/-- Before the first event. -/
def NoEvents (db : AdsDb) : Prop := db.events = .empty ∧ db.metrics = []

/-- The condition on a step: a correction that commits is of an event without placement, or finds the flag as it
leaves it. -/
def CountersKept (p : AdsPoint) (s : AdsDb) : Prop :=
  ∀ w ∈ p.journal, ∀ c ∈ w.correction, ∀ e ∈ s.events.find? c.event.id,
    e.placementId = none ∨ e.isBillable = c.nextIsBillable

instance (p : AdsPoint) (s : AdsDb) : Decidable (CountersKept p s) :=
  inferInstanceAs (Decidable (∀ w ∈ p.journal, ∀ c ∈ w.correction, ∀ e ∈ _, _ ∨ _))

/-! ## Counters -/

/-- The primary key of `ad_daily_metrics`. -/
def DailyMetric.dayKey (m : DailyMetric) : Day × Nat × Nat × Nat × Nat × Nat :=
  (m.metricDate, m.advertiserId, m.campaignId, m.adSetId, m.adId, m.placementId)

theorem sameKey_iff {m n : DailyMetric} : m.sameKey n = true ↔ n.dayKey = m.dayKey := by
  simp only [DailyMetric.sameKey, DailyMetric.dayKey, decide_eq_true_eq, Prod.mk.injEq]
  grind

/-- A row after another was added to it. -/
def DailyMetric.plus (m n : DailyMetric) : DailyMetric :=
  { n with
    impressions := n.impressions + m.impressions
    clicks := n.clicks + m.clicks
    conversions := n.conversions + m.conversions
    billableEvents := n.billableEvents + m.billableEvents
    spendMicros := n.spendMicros + m.spendMicros }

theorem upsertMetric_of_mem {metrics : List DailyMetric} {m : DailyMetric}
    (h : m.dayKey ∈ metrics.map DailyMetric.dayKey) :
    upsertMetric metrics m = metrics.map fun n => if n.dayKey = m.dayKey then m.plus n else n := by
  obtain ⟨n, hn, hkey⟩ := List.mem_map.mp h
  rw [upsertMetric, if_pos (List.any_eq_true.mpr ⟨n, hn, sameKey_iff.mpr hkey⟩)]
  simp only [sameKey_iff, DailyMetric.plus]

theorem upsertMetric_of_not_mem {metrics : List DailyMetric} {m : DailyMetric}
    (h : m.dayKey ∉ metrics.map DailyMetric.dayKey) : upsertMetric metrics m = metrics ++ [m] := by
  refine if_neg fun hany => h ?_
  obtain ⟨n, hn, hsame⟩ := List.any_eq_true.mp hany
  exact List.mem_map.mpr ⟨n, hn, sameKey_iff.mp hsame⟩

/-- The key stays unique. -/
theorem nodup_upsertMetric {metrics : List DailyMetric} (h : (metrics.map DailyMetric.dayKey).Nodup) (m : DailyMetric) :
    ((upsertMetric metrics m).map DailyMetric.dayKey).Nodup := by
  by_cases hmem : m.dayKey ∈ metrics.map DailyMetric.dayKey
  · have hkeys : (upsertMetric metrics m).map DailyMetric.dayKey = metrics.map DailyMetric.dayKey := by
      rw [upsertMetric_of_mem hmem, List.map_map]
      refine List.map_congr_left fun n _ => ?_
      simp only [Function.comp]
      split <;> rfl
    rwa [hkeys]
  · rw [upsertMetric_of_not_mem hmem, List.map_append]
    exact h.append (List.nodup_singleton _) fun key hkey hm => hmem (List.mem_singleton.mp hm ▸ hkey)

section Counters

variable {config : AdsConfig} {w : DailyMetric → Int} {v : AdEvent → Int}

variable (config) in
/-- A counter `w` of the metrics, and what an event adds to it. -/
structure Aggregates (w : DailyMetric → Int) (v : AdEvent → Int) : Prop where
  plus {m n : DailyMetric} : n.dayKey = m.dayKey → w (m.plus n) = w n + w m
  placed {e : AdEvent} {m : DailyMetric} : eventMetric config e = some m → w m = v e
  unplaced {e : AdEvent} : e.placementId = none → v e = 0
  numbered (e : AdEvent) (id : Nat) : v (e.numbered id) = v e

theorem aggregates_spend (campaignId : Nat) :
    Aggregates config (DailyMetric.spendOf campaignId) fun e => e.aggregated campaignId e.costMicros where
  plus hkey := by
    simp only [DailyMetric.dayKey, Prod.mk.injEq] at hkey
    simp only [DailyMetric.spendOf, DailyMetric.plus, hkey]
    split <;> simp
  placed := by
    intro e m h
    obtain ⟨placementId, hplacement, rfl⟩ := Option.map_eq_some_iff.mp h
    simp only [DailyMetric.spendOf, AdEvent.aggregated, hplacement, Option.isSome_some, and_true]
    by_cases hcampaign : e.campaignId = campaignId <;> cases hbill : e.isBillable <;> simp [hcampaign]
  unplaced h := by simp [AdEvent.aggregated, h]
  numbered _ _ := rfl

theorem aggregates_billable (campaignId : Nat) :
    Aggregates config (DailyMetric.billableOf campaignId) fun e => e.aggregated campaignId 1 where
  plus hkey := by
    simp only [DailyMetric.dayKey, Prod.mk.injEq] at hkey
    simp only [DailyMetric.billableOf, DailyMetric.plus, hkey]
    split <;> simp
  placed := by
    intro e m h
    obtain ⟨placementId, hplacement, rfl⟩ := Option.map_eq_some_iff.mp h
    simp only [DailyMetric.billableOf, AdEvent.aggregated, hplacement, Option.isSome_some, and_true]
    by_cases hcampaign : e.campaignId = campaignId <;> cases hbill : e.isBillable <;> simp [hcampaign]
  unplaced h := by simp [AdEvent.aggregated, h]
  numbered _ _ := rfl

theorem Aggregates.sum_upsertMetric (h : Aggregates config w v) {metrics : List DailyMetric}
    (hunique : (metrics.map DailyMetric.dayKey).Nodup) (m : DailyMetric) :
    ((upsertMetric metrics m).map w).sum = (metrics.map w).sum + w m := by
  by_cases hmem : m.dayKey ∈ metrics.map DailyMetric.dayKey
  · rw [upsertMetric_of_mem hmem]
    exact sum_map_at_key hunique hmem fun n _ hkey => h.plus hkey
  · rw [upsertMetric_of_not_mem hmem]
    simp

/-- An event adds what it should. -/
theorem Aggregates.sum_accumulate (h : Aggregates config w v) {metrics : List DailyMetric}
    (hunique : (metrics.map DailyMetric.dayKey).Nodup) (e : AdEvent) :
    ((accumulateDailyMetric config e metrics).map w).sum = (metrics.map w).sum + v e := by
  unfold accumulateDailyMetric
  cases hmetric : eventMetric config e with
  | none => rw [h.unplaced (Option.map_eq_none_iff.mp hmetric), add_zero]
  | some m =>
    rw [← h.placed hmetric]
    exact h.sum_upsertMetric hunique m

end Counters

/-! ## Events and corrections -/

section Writes

variable (config : AdsConfig)

/-- The invariant: every counter is what the events add up to. -/
structure DailyBooks (db : AdsDb) : Prop where
  unique : (db.metrics.map DailyMetric.dayKey).Nodup
  sums : ∀ w v, Aggregates config w v → (db.metrics.map w).sum = db.events.total v

variable {config} {db : AdsDb}

theorem DailyBooks.of_noEvents (h : NoEvents db) : DailyBooks config db where
  unique := h.2 ▸ List.nodup_nil
  sums _ _ _ := by
    rw [h.1, h.2]
    rfl

theorem DailyBooks.agree (h : DailyBooks config db) (campaignId : Nat) : MetricsAgree db campaignId :=
  ⟨h.sums _ _ (aggregates_spend campaignId), h.sums _ _ (aggregates_billable campaignId)⟩

/-- The books speak of the metrics and the events only. -/
theorem DailyBooks.congr {db' : AdsDb} (h : DailyBooks config db) (hmetrics : db'.metrics = db.metrics)
    (hevents : db'.events = db.events) : DailyBooks config db' :=
  ⟨hmetrics ▸ h.unique, hmetrics ▸ hevents ▸ h.sums⟩

/-- **A new event** reaches its day. -/
theorem DailyBooks.recordEvent (h : DailyBooks config db) (event : AdEvent) (currency reason : String)
    (occurredAt : Instant) : DailyBooks config (db.recordEvent config event currency reason occurredAt) := by
  have hrecorded : DailyBooks config { db with
      events := db.events.create event.numbered, metrics := accumulateDailyMetric config event db.metrics } := by
    refine ⟨?_, fun w v hwv => ?_⟩
    · unfold accumulateDailyMetric
      dsimp only
      split
      · exact nodup_upsertMetric h.unique _
      · exact h.unique
    · rw [Table.total_create v fun _ => rfl, hwv.numbered, ← h.sums w v hwv]
      exact hwv.sum_accumulate h.unique event
  unfold AdsDb.recordEvent
  dsimp only
  split
  · exact hrecorded.congr rfl rfl
  · exact hrecorded

/-- **A correction** keeps the books when its event counts on no day, or is as the correction leaves it. -/
theorem DailyBooks.correctEvent (h : DailyBooks config db) {event : AdEvent} (charged : Bool) {nextIsBillable : Bool}
    (currency reason : String) (occurredAt : Instant)
    (hkept : ∀ e ∈ db.events.find? event.id, e.placementId = none ∨ e.isBillable = nextIsBillable) :
    DailyBooks config (db.correctEvent event charged nextIsBillable currency reason occurredAt) := by
  have hflagged : DailyBooks config
      { db with events := db.events.updateWhere (·.id = event.id) (AdEvent.marked nextIsBillable) } := by
    refine ⟨h.unique, fun w v hwv => ?_⟩
    rw [Table.total_updateWhere v (f := AdEvent.marked nextIsBillable) (fun e he hid => ?_) fun _ => rfl]
    · exact h.sums w v hwv
    · have hfind : db.events.find? event.id = some e := Table.find?_eq_some.mpr ⟨he, of_decide_eq_true hid⟩
      rcases hkept e hfind with hnone | hsame
      · rw [hwv.unplaced hnone, hwv.unplaced (e := e.marked nextIsBillable) hnone]
      · subst hsame
        rfl
  unfold AdsDb.correctEvent
  dsimp only
  split
  · exact hflagged.congr rfl rfl
  · refine hflagged.congr ?_ ?_ <;> unfold AdsDb.releaseCampaignBudget <;> split <;> rfl

/-- What a transaction commits keeps the books, when its correction keeps them. -/
theorem DailyBooks.replay {p : AdsPoint} (h : DailyBooks config db) (hrelies : AdsRelies config p db)
    (hkept : CountersKept p db) : DailyBooks config ((adsScript config).replay p.journal db) := by
  by_cases hcorrects : ∃ c, .correct c ∈ p.journal
  · obtain ⟨c, hc⟩ := hcorrects
    obtain ⟨-, hjournal, -⟩ := hrelies.alone c hc
    rw [hjournal]
    exact h.correctEvent c.charged c.currency c.reason c.occurredAt (hkept _ hc c rfl)
  · refine Script.replay_preserves (S := adsScript config) (fun w hw s hs => ?_) h
    cases w with
    | record event currency reason occurredAt => exact hs.recordEvent event currency reason occurredAt
    | correct c => exact absurd ⟨c, hw⟩ hcorrects
    | invoice draft charges => exact hs.congr rfl rfl

end Writes

/-- **The daily metrics agree with the events** in every interleaving of tracking, corrections and closings in which a
correction that commits is of an event without placement, or finds the flag as it leaves it. -/
theorem dailyMetrics_agree (config : AdsConfig) {S : AdsSessions}
    (h : ((adsScript config).program.machine NoEvents).Reachable (Program.Meets CountersKept) S) (campaignId : Nat) :
    MetricsAgree S.committed campaignId :=
  have hdisciplined : (adsScript config).program.DisciplinedIf CountersKept (DailyBooks config) (AdsRelies config)
      keepsCampaign :=
    ads_disciplinedIf fun hbooks hrelies hkept => hbooks.replay hrelies hkept
  (Program.serves_if hdisciplined (fun _ hinit => .of_noEvents hinit) h).1.agree campaignId

/-! ## A click marked as fraud -/

section Examples

/-- The decision of the click has a placement, and another one does not. -/
def placedAdsDb : AdsDb :=
  { exampleAdsDb with
    decisions := (Table.empty.create fun id => ⟨id, 1, 1, 1, 1, 1, some 1, 500000⟩).create
      fun id => ⟨id, 1, 1, 1, 1, 1, none, 500000⟩ }

/-- Two clicks are tracked, and the one without placement is marked as fraud. -/
def unplacedFraud : List (Act AdsRequest) :=
  trackedClick ++
    .start 2 (.trackEvents [⟨⟨.click, 2, none, none, none⟩, 1000, 1000⟩]) :: List.replicate 4 (.advance 2) ++
    .start 3 (.updateBillableStatus 2 ⟨false, "fraude"⟩ 2000) :: List.replicate 5 (.advance 3)

theorem placedAdsDb_init (config : AdsConfig) :
    ((adsScript config).program.machine NoEvents).init ⟨placedAdsDb, []⟩ := ⟨⟨rfl, rfl⟩, rfl⟩

theorem dailyMetrics_agree_of_click :
    let S := ((adsScript exampleAdsConfig).program.machine NoEvents).afterIf (Program.Meets CountersKept)
      ⟨placedAdsDb, []⟩ unplacedFraud
    S.committed.events.rows.map (·.isBillable) = [true, false] ∧
      S.committed.metrics.map (·.spendMicros) = [500000] ∧ MetricsAgree S.committed 1 :=
  ⟨by decide +kernel, by decide +kernel, dailyMetrics_agree exampleAdsConfig
    (Machine.reachable_afterIf ((adsScript exampleAdsConfig).program.machine NoEvents) (Program.Meets CountersKept)
      (placedAdsDb_init _) _) 1⟩

/-- A click is tracked and charged; then it is marked as fraud and given back. -/
def fraudulentClick : List (Act AdsRequest) :=
  trackedClick ++ .start 2 (.updateBillableStatus 1 ⟨false, "fraude"⟩ 2000) :: List.replicate 5 (.advance 2)

/-- No event of the campaign is billable, and its day has a spend. -/
theorem dailyMetrics_counterexample :
    ∃ S, ((adsScript exampleAdsConfig).program.machine NoEvents).Reachable (fun _ _ => True) S ∧
      S.committed.ledger.rows.map (·.amountMicros) = [500000, -500000] ∧
      (S.committed.metrics.map (DailyMetric.spendOf 1)).sum = 500000 ∧
      (S.committed.events.total fun e => e.aggregated 1 e.costMicros) = 0 ∧ ¬MetricsAgree S.committed 1 := by
  refine ⟨_, Machine.reachable_after _ (placedAdsDb_init exampleAdsConfig) fraudulentClick, by decide +kernel,
    by decide +kernel, by decide +kernel, fun h => ?_⟩
  exact absurd h.spend (by decide +kernel)

end Examples

end AtlasErp
