import AtlasErp.Ads.Spend

/-! # A delivery is tracked once

Single requests and batches, repeated in any order: a repeat of a request finds the event of the first one, and the
index of the events makes one of two requests that race wait for the other, or fail.

- `TrackedOnce`: one event for each delivery, kind and request, charged once if it is billable;
- `TrackRelies`: the keys of what a request wrote are locked, and new;
- `tracked_once`: **every interleaving**: a repeat answers the stored event and adds nothing. -/

namespace AtlasErp

open Lib

/-! ## Keys -/

/-- The columns of `uq_ad_event_tracking_idempotency`. -/
structure TrackingKey where
  deliveryDecisionId : Nat
  eventType : AdEventType
  requestId : Nat
  deriving DecidableEq

def AdEvent.trackingKey (e : AdEvent) : TrackingKey := ⟨e.deliveryDecisionId, e.eventType, e.requestId⟩

def TrackedEvent.trackingKey (t : TrackedEvent) : TrackingKey := ⟨t.decision.id, t.item.input.eventType, t.requestId⟩

def TrackingKey.lock (k : TrackingKey) : AdsLock := .eventKey k.deliveryDecisionId k.eventType k.requestId

/-- The keys of the events. -/
def AdsDb.trackingKeys (db : AdsDb) : List TrackingKey := db.events.rows.map AdEvent.trackingKey

/-- The event that an entry records. -/
def AdsWrite.recorded? : AdsWrite → Option AdEvent
  | .record event .. => some event
  | _ => none

def TrackAnswer.recorded? : TrackAnswer → Option AdEvent
  | .recorded event => some event
  | .duplicate .. => none

/-- The answers that a request has so far. -/
def AdsStage.answers : AdsStage → List TrackAnswer
  | .tracking _ answers => answers
  | .decided _ _ answers => answers
  | .budgeted _ _ _ answers => answers
  | _ => []

/-- The stages of a tracking request. -/
def AdsStage.tracks : AdsStage → Bool
  | .tracking .. | .decided .. | .budgeted .. => true
  | _ => false

/-! ## The property -/

section Property

variable (db : AdsDb)

def AdsDb.entriesAbout (eventId : Nat) : List SpendLedgerEntry := db.ledger.rowsWhere (·.aboutEvent = eventId)

/-- An event that is billable has one entry, its charge; another one has none. -/
def ChargedOnce (e : AdEvent) : Prop :=
  if e.isBillable then
    ∃ currency reason occurredAt id, db.entriesAbout e.id = [chargeEntry e e.id currency reason occurredAt id]
  else db.entriesAbout e.id = []

/-- One event for each key, charged once and reserved once. -/
structure TrackedOnce : Prop where
  oneEvent : db.trackingKeys.Nodup
  charged : ∀ e ∈ db.events, ChargedOnce db e
  about : ∀ l ∈ db.ledger, ∃ e ∈ db.events, e.id = l.aboutEvent
  reserved : ∀ c ∈ db.campaigns, c.spendTotalMicros = db.billableCostOf c.id

end Property

section Tracking

variable {config : AdsConfig} {db s s' : AdsDb}

theorem TrackedOnce.of_noActivity (h : NoAdsActivity db) : TrackedOnce db := by
  have hbooks := SpendBooks.of_noActivity h
  obtain ⟨hevents, -, -⟩ := h
  refine ⟨?_, fun e he => ?_, hbooks.about, hbooks.billable⟩
  · rw [AdsDb.trackingKeys, hevents]
    exact List.nodup_nil
  · rw [hevents] at he
    cases he

/-- Two events with one key are the same event. -/
theorem TrackedOnce.eq_of_key (h : TrackedOnce db) {e e' : AdEvent} (he : e ∈ db.events) (he' : e' ∈ db.events)
    (hkey : e.trackingKey = e'.trackingKey) : e = e' :=
  List.inj_on_of_nodup_map h.oneEvent he he' hkey

/-! ## What an entry keeps -/

section Record

variable (config db) (event : AdEvent) (currency reason : String) (occurredAt : Instant)

theorem events_record :
    (db.recordEvent config event currency reason occurredAt).events = db.events.create event.numbered := by
  simp only [AdsDb.recordEvent]
  split <;> rfl

theorem trackingKeys_record :
    (db.recordEvent config event currency reason occurredAt).trackingKeys = db.trackingKeys ++ [event.trackingKey] := by
  rw [AdsDb.trackingKeys, events_record, Table.rows_create fun _ => rfl, List.map_append]
  rfl

theorem ledger_record (l : SpendLedgerEntry) :
    l ∈ (db.recordEvent config event currency reason occurredAt).ledger ↔ l ∈ db.ledger ∨ event.isBillable = true ∧
      l = chargeEntry event db.events.nextKey currency reason occurredAt db.ledger.nextKey := by
  simp only [AdsDb.recordEvent]
  split
  · rename_i hbill
    simp only [hbill, true_and]
    exact Table.mem_create fun _ => rfl
  · rename_i hbill
    simp [hbill]

/-- The entries about an event, with the charge of the new one. -/
theorem entriesAbout_record (eventId : Nat) :
    (db.recordEvent config event currency reason occurredAt).entriesAbout eventId = db.entriesAbout eventId ++
      if event.isBillable = true ∧ db.events.nextKey = eventId then
        [chargeEntry event db.events.nextKey currency reason occurredAt db.ledger.nextKey] else [] := by
  simp only [AdsDb.recordEvent, AdsDb.entriesAbout, Table.rowsWhere]
  split
  · rename_i hbill
    have hrows := @Table.rows_create _ _ db.ledger (chargeEntry event db.events.nextKey currency reason occurredAt) fun _ => rfl
    rw [hrows, List.filter_append]
    by_cases hid : db.events.nextKey = eventId <;> simp [hbill, hid, chargeEntry]
  · rename_i hbill
    simp [hbill]

theorem billableCostOf_record (campaignId : Nat) :
    (db.recordEvent config event currency reason occurredAt).billableCostOf campaignId =
      db.billableCostOf campaignId +
        if event.campaignId = campaignId ∧ event.isBillable = true then (event.costMicros : Int) else 0 := by
  rw [AdsDb.billableCostOf, events_record]
  exact Table.total_create _ fun _ => rfl

/-- A campaign, after the reservation of the new event. -/
theorem campaigns_record {c : AdCampaign}
    (hc : c ∈ (db.recordEvent config event currency reason occurredAt).campaigns) :
    ∃ c₀ ∈ db.campaigns, c₀.id = c.id ∧ c.spendTotalMicros = c₀.spendTotalMicros +
      if event.campaignId = c.id ∧ event.isBillable = true then (event.costMicros : Int) else 0 := by
  simp only [AdsDb.recordEvent] at hc
  split at hc
  · rename_i hbill
    obtain ⟨c₀, hc₀, rfl⟩ := (Table.mem_updateWhere (f := AdCampaign.spent event.costMicros) fun _ => rfl).mp hc
    refine ⟨c₀, hc₀, ?_⟩
    by_cases hid : c₀.id = event.campaignId
    · simp [hid, hbill, AdCampaign.spent]
    · simp [hid, Ne.symm hid]
  · rename_i hbill
    exact ⟨c, hc, rfl, by simp [hbill]⟩

end Record

/-- No entry is about the next event. -/
theorem TrackedOnce.entriesAbout_next (h : TrackedOnce db) : db.entriesAbout db.events.nextKey = [] := by
  refine List.filter_eq_nil_iff.mpr fun l hl => ?_
  obtain ⟨e, he, hid⟩ := h.about l hl
  have hlt : e.id < db.events.nextKey := Table.key_lt_nextKey he
  simp only [decide_eq_true_eq]
  omega

/-- **A new event** with a new key. -/
theorem TrackedOnce.record (h : TrackedOnce db) {event : AdEvent} (hkey : event.trackingKey ∉ db.trackingKeys)
    {currency reason : String} {occurredAt : Instant} :
    TrackedOnce (db.recordEvent config event currency reason occurredAt) := by
  refine ⟨?_, fun e he => ?_, fun l hl => ?_, fun c hc => ?_⟩
  · rw [trackingKeys_record, List.nodup_append]
    refine ⟨h.oneEvent, List.nodup_singleton _, ?_⟩
    rintro k hk k' hk' rfl
    exact hkey (List.mem_singleton.mp hk' ▸ hk)
  · unfold ChargedOnce
    rw [entriesAbout_record]
    rw [events_record] at he
    rcases mem_events_create.mp he with he | rfl
    · have hlt : e.id < db.events.nextKey := Table.key_lt_nextKey he
      have hother : ¬(event.isBillable = true ∧ db.events.nextKey = e.id) := by omega
      rw [if_neg hother, List.append_nil]
      exact h.charged e he
    · have hid : (event.numbered db.events.nextKey).id = db.events.nextKey := rfl
      have hflag : (event.numbered db.events.nextKey).isBillable = event.isBillable := rfl
      rw [hid, hflag, h.entriesAbout_next, List.nil_append]
      split
      · rename_i hbill
        rw [if_pos ⟨hbill, rfl⟩]
        exact ⟨currency, reason, occurredAt, db.ledger.nextKey, rfl⟩
      · rename_i hbill
        exact if_neg fun hand => hbill hand.1
  · rw [events_record]
    rcases (ledger_record config db event currency reason occurredAt l).mp hl with hl | ⟨-, rfl⟩
    · obtain ⟨e, he, hid⟩ := h.about l hl
      exact ⟨e, mem_events_create.mpr (.inl he), hid⟩
    · exact ⟨_, mem_events_create.mpr (.inr rfl), rfl⟩
  · obtain ⟨c₀, hc₀, hid, hspend⟩ := campaigns_record config db event currency reason occurredAt hc
    rw [hspend, billableCostOf_record, h.reserved c₀ hc₀, hid]

end Tracking

/-! ## Requests -/

section Requests

variable (config : AdsConfig)

/-- Single requests and batches, and nothing else. -/
def trackingScript : Script AdsDb (List TrackItem) AdsLock AdsWrite AdsStage HttpError where
  start items := .tracking items []
  apply := AdsWrite.apply config
  move := (adsScript config).move

abbrev trackingMachine : Machine AdsSessions (Act (List TrackItem)) :=
  (trackingScript config).program.machine NoAdsActivity

/-- The statements of a tracking request that lead on, with what they found. -/
inductive TrackMoves (db : AdsDb) : AdsStage → List AdsLock → List AdsWrite → AdsStage → Prop where
  | decide {item rest answers decision campaign adSet} :
      TrackMoves db (.tracking (item :: rest) answers) [] []
        (.decided ⟨item, decision, campaign, adSet⟩ rest answers)
  | repeated {t rest answers event} (found : t.existing db = some event) :
      TrackMoves db (.decided t rest answers) [] []
        (.tracking rest (answers ++ [.duplicate event (db.chargeOf event.id).isSome]))
  | budget {t rest answers locks isBillable} (missing : t.existing db = none) :
      TrackMoves db (.decided t rest answers) locks [] (.budgeted t isBillable rest answers)
  | record {t : TrackedEvent} {isBillable rest answers} (missing : t.existing db = none) :
      TrackMoves db (.budgeted t isBillable rest answers) (t.locks config)
        [.record (t.row isBillable) t.campaign.currency t.reason t.item.occurredAt]
        (.tracking rest (answers ++ [.recorded (t.row isBillable)]))

/-- **All that a statement can do** when it leads on. -/
theorem trackMove_cases {stage stage' : AdsStage} {db : AdsDb} {locks : List AdsLock} {writes : List AdsWrite}
    (htracks : stage.tracks = true) (h : (trackingScript config).move stage db = .on locks writes stage') :
    TrackMoves config db stage locks writes stage' := by
  cases stage with
  | tracking items answers =>
    cases items with
    | nil => simp [trackingScript, adsScript, trackMove] at h
    | cons item rest =>
      simp only [trackingScript, adsScript, trackMove] at h
      repeat' split at h
      all_goals cases h
      exact .decide
  | decided t rest answers =>
    simp only [trackingScript, adsScript, trackMove] at h
    cases hfound : t.existing db with
    | some event =>
      simp only [hfound] at h
      cases h
      exact .repeated hfound
    | none =>
      simp only [hfound] at h
      split at h
      all_goals
        cases h
        exact .budget hfound
  | budgeted t isBillable rest answers =>
    simp only [trackingScript, adsScript, trackMove] at h
    split at h
    · cases h
    split at h
    · cases h
    · rename_i hmissing
      cases h
      exact .record (Option.not_isSome_iff_eq_none.mp hmissing)
  | _ => cases htracks

/-- What a request in progress relies on: it tracked what it answered, under keys that are locked and new. -/
structure TrackRelies (p : AdsPoint) (s : AdsDb) : Prop where
  tracks : p.stage.tracks = true
  records : ∀ w ∈ p.journal, w.recorded?.isSome = true
  answered : p.stage.answers.filterMap TrackAnswer.recorded? = p.journal.filterMap AdsWrite.recorded?
  nodup : ((p.journal.filterMap AdsWrite.recorded?).map AdEvent.trackingKey).Nodup
  held : ∀ e ∈ p.journal.filterMap AdsWrite.recorded?, e.trackingKey.lock ∈ p.held
  fresh : ∀ e ∈ p.journal.filterMap AdsWrite.recorded?, e.trackingKey ∉ s.trackingKeys

/-- What a holder of a lock relies on: whether the key is taken. -/
def keepsKey : AdsLock → AdsDb → AdsDb → Prop
  | .eventKey deliveryDecisionId eventType requestId, s, s' =>
    (⟨deliveryDecisionId, eventType, requestId⟩ ∈ s.trackingKeys ↔
      ⟨deliveryDecisionId, eventType, requestId⟩ ∈ s'.trackingKeys)
  | _, _, _ => True

variable {config} {p p' : AdsPoint} {s s' : AdsDb}

/-- A journal adds the keys of what it records. -/
theorem trackingKeys_replay {ws : List AdsWrite} (hws : ∀ w ∈ ws, w.recorded?.isSome = true) (s : AdsDb) :
    ((trackingScript config).replay ws s).trackingKeys =
      s.trackingKeys ++ (ws.filterMap AdsWrite.recorded?).map AdEvent.trackingKey := by
  induction ws generalizing s with
  | nil => simp
  | cons w ws ih =>
    have hw := hws w List.mem_cons_self
    have hrest := ih fun w' hw' => hws w' (List.mem_cons_of_mem w hw')
    cases w with
    | record event currency reason occurredAt =>
      rw [Script.replay_cons, hrest]
      change (s.recordEvent config event currency reason occurredAt).trackingKeys ++ _ = _
      rw [trackingKeys_record, List.append_assoc]
      rfl
    | correct c => cases hw
    | invoice draft charges => cases hw

/-- **A journal** with new keys keeps the property. -/
theorem TrackedOnce.replay (h : TrackedOnce s) {ws : List AdsWrite} (hws : ∀ w ∈ ws, w.recorded?.isSome = true)
    (hnodup : ((ws.filterMap AdsWrite.recorded?).map AdEvent.trackingKey).Nodup)
    (hfresh : ∀ e ∈ ws.filterMap AdsWrite.recorded?, e.trackingKey ∉ s.trackingKeys) :
    TrackedOnce ((trackingScript config).replay ws s) := by
  induction ws generalizing s with
  | nil => exact h
  | cons w ws ih =>
    have hw := hws w List.mem_cons_self
    have hrest : ∀ w' ∈ ws, w'.recorded?.isSome = true := fun w' hw' => hws w' (List.mem_cons_of_mem w hw')
    cases w with
    | record event currency reason occurredAt =>
      simp only [List.filterMap_cons, AdsWrite.recorded?, List.map_cons, List.nodup_cons, List.mem_cons,
        forall_eq_or_imp] at hnodup hfresh
      refine ih (h.record hfresh.1) hrest hnodup.2 fun e he => ?_
      change e.trackingKey ∉ (s.recordEvent config event currency reason occurredAt).trackingKeys
      rw [trackingKeys_record, List.mem_append, List.mem_singleton, not_or]
      exact ⟨hfresh.2 e he, fun heq => hnodup.1 (heq ▸ List.mem_map_of_mem he)⟩
    | correct c => cases hw
    | invoice draft charges => cases hw

theorem TrackRelies.view (h : TrackRelies p s) (hs : TrackedOnce s) :
    TrackedOnce ((trackingScript config).replay p.journal s) :=
  hs.replay h.records h.nodup h.fresh

theorem existing_eq_findBy (t : TrackedEvent) (db : AdsDb) :
    t.existing db = db.events.findBy (·.trackingKey = t.trackingKey) := by
  simp [TrackedEvent.existing, AdEvent.trackingKey, TrackedEvent.trackingKey]

/-- A key is taken when there is an event with it. -/
theorem existing_eq_none {t : TrackedEvent} {db : AdsDb} : t.existing db = none ↔ t.trackingKey ∉ db.trackingKeys := by
  rw [existing_eq_findBy, Table.findBy_eq_none]
  simp [AdsDb.trackingKeys, Table.mem_rows]

theorem trackingKey_row (t : TrackedEvent) (isBillable : Bool) : (t.row isBillable).trackingKey = t.trackingKey := rfl

/-- **One statement** keeps what a request relies on. -/
theorem TrackRelies.goto (h : TrackRelies p s)
    (hnext : (trackingScript config).program.next p ((trackingScript config).program.writes p s) = .goto p') :
    TrackRelies p' s := by
  obtain ⟨locks, writes, hmove, hheld, hjournal⟩ := Script.follow_eq_goto hnext
  obtain ⟨held, journal, stage⟩ := p
  obtain ⟨held', journal', stage'⟩ := p'
  obtain rfl : held' = locks ++ held := hheld
  obtain rfl : journal' = journal ++ writes := hjournal
  have hanswered := h.answered
  have hmoves := trackMove_cases config h.tracks hmove
  -- a statement that writes nothing and records no answer
  have hquiet : ∀ stage'', stage''.tracks = true →
      stage''.answers.filterMap TrackAnswer.recorded? = journal.filterMap AdsWrite.recorded? →
      TrackRelies ⟨locks ++ held, journal ++ [], stage''⟩ s := by
    intro stage'' htracks hanswers
    rw [List.append_nil]
    exact ⟨htracks, h.records, hanswers, h.nodup, fun e he => List.mem_append_right _ (h.held e he), h.fresh⟩
  cases hmoves with
  | decide => exact hquiet _ rfl hanswered
  | @repeated t rest answers event hfound =>
    refine hquiet _ rfl ?_
    rw [AdsStage.answers, List.filterMap_append]
    exact (List.append_nil _).trans hanswered
  | budget => exact hquiet _ rfl hanswered
  | @record t isBillable rest answers hmissing =>
    have hnew : t.trackingKey ∉ ((trackingScript config).replay journal s).trackingKeys := existing_eq_none.mp hmissing
    rw [trackingKeys_replay h.records, List.mem_append, not_or] at hnew
    refine ⟨rfl, fun w hw => ?_, ?_, ?_, fun e he => ?_, fun e he => ?_⟩
    · rcases List.mem_append.mp hw with hw | hw
      · exact h.records w hw
      · rw [List.mem_singleton.mp hw]
        rfl
    · simpa [AdsStage.answers, TrackAnswer.recorded?, AdsWrite.recorded?] using hanswered
    · rw [List.filterMap_append, List.map_append]
      refine List.nodup_append.mpr ⟨h.nodup, List.nodup_singleton _, ?_⟩
      rintro k hk k' hk' rfl
      have heq : k = t.trackingKey := List.mem_singleton.mp hk'
      exact hnew.2 (heq ▸ hk)
    · rcases List.mem_append.mp (List.filterMap_append ▸ he) with he | he
      · exact List.mem_append_right _ (h.held e he)
      · rw [List.mem_singleton.mp he]
        exact List.mem_append_left _ List.mem_cons_self
    · rcases List.mem_append.mp (List.filterMap_append ▸ he) with he | he
      · exact h.fresh e he
      · rw [List.mem_singleton.mp he]
        exact hnew.1

/-- **The discipline** of tracking. -/
theorem tracking_disciplined :
    (trackingScript config).program.Disciplined TrackedOnce TrackRelies keepsKey where
  start _ _ _ := ⟨rfl, fun _ h => absurd h List.not_mem_nil, rfl, List.nodup_nil,
    fun _ h => absurd h List.not_mem_nil, fun _ h => absurd h List.not_mem_nil⟩
  goto _ h hnext := h.goto hnext
  commit hs h _ := h.view hs
  guarded {p s} _ h _ k hk := by
    cases k with
    | eventKey deliveryDecisionId eventType requestId =>
      change _ ↔ _ ∈ ((trackingScript config).replay p.journal s).trackingKeys
      rw [trackingKeys_replay h.records, List.mem_append]
      refine (or_iff_left fun hmem => ?_).symm
      obtain ⟨e, he, hkey⟩ := List.mem_map.mp hmem
      have hheld := h.held e he
      rw [hkey] at hheld
      exact hk hheld
    | _ => trivial
  locked hkeeps h := { h with fresh := fun e he hmem => h.fresh e he ((hkeeps _ (h.held e he)).mpr hmem) }

/-! ## Repeats -/

/-- Every entry is the charge of the event it is about. -/
theorem TrackedOnce.adEventId (h : TrackedOnce db) {l : SpendLedgerEntry} (hl : l ∈ db.ledger) :
    l.adEventId = some l.aboutEvent ∧ ∃ e ∈ db.events, e.id = l.aboutEvent ∧ e.isBillable = true := by
  obtain ⟨e, he, hid⟩ := h.about l hl
  have hcharged := h.charged e he
  have hmem : l ∈ db.entriesAbout e.id := Table.mem_rowsWhere.mpr ⟨hl, decide_eq_true hid.symm⟩
  unfold ChargedOnce at hcharged
  split at hcharged
  · rename_i hbill
    obtain ⟨currency, reason, occurredAt, id, hentries⟩ := hcharged
    rw [hentries, List.mem_singleton] at hmem
    subst hmem
    exact ⟨rfl, e, he, rfl, hbill⟩
  · rw [hcharged] at hmem
    cases hmem

/-- Whether an event has its charge. -/
theorem TrackedOnce.chargeOf_isSome (h : TrackedOnce db) {e : AdEvent} (he : e ∈ db.events) :
    (db.chargeOf e.id).isSome = e.isBillable := by
  have hcharged := h.charged e he
  unfold ChargedOnce at hcharged
  split at hcharged
  · rename_i hbill
    obtain ⟨currency, reason, occurredAt, id, hentries⟩ := hcharged
    have hmem : chargeEntry e e.id currency reason occurredAt id ∈ db.entriesAbout e.id := by simp [hentries]
    rw [hbill, AdsDb.chargeOf, Table.findBy_isSome]
    exact ⟨_, (Table.mem_rowsWhere.mp hmem).1, decide_eq_true rfl⟩
  · rename_i hbill
    rw [Bool.eq_false_iff.mpr hbill, AdsDb.chargeOf, Option.isSome_eq_false_iff, Option.isNone_iff_eq_none,
      Table.findBy_eq_none]
    intro l hl
    refine decide_eq_false fun heq => ?_
    obtain ⟨hname, e', he', hid, hbill'⟩ := h.adEventId hl
    have hsame : e' = e := Table.eq_of_key_eq he' he (hid.trans (Option.some.inj (hname.symm.trans heq)))
    exact hbill (hsame ▸ hbill')

/-- The event that a repeat finds. -/
theorem TrackedOnce.existing (h : TrackedOnce db) {e : AdEvent} (he : e ∈ db.events) {t : TrackedEvent}
    (hkey : e.trackingKey = t.trackingKey) : t.existing db = some e := by
  rw [existing_eq_findBy]
  refine Table.findBy_unique he (decide_eq_true hkey) fun e' he' hkey' => ?_
  exact congrArg AdEvent.id (h.eq_of_key he' he ((of_decide_eq_true hkey').trans hkey.symm))

/-- Events and entries stay as they are. -/
structure KeptRows (s s' : AdsDb) : Prop where
  events : ∀ e ∈ s.events, e ∈ s'.events
  ledger : ∀ l ∈ s.ledger, l ∈ s'.ledger

theorem KeptRows.record (h : KeptRows db s) (event : AdEvent) (currency reason : String) (occurredAt : Instant) :
    KeptRows db (s.recordEvent config event currency reason occurredAt) where
  events e he := by
    rw [events_record]
    exact mem_events_create.mpr (.inl (h.events e he))
  ledger l hl := (ledger_record config s event currency reason occurredAt l).mpr (.inl (h.ledger l hl))

theorem KeptRows.replay {ws : List AdsWrite} (hws : ∀ w ∈ ws, w.recorded?.isSome = true) (s : AdsDb) :
    KeptRows s ((trackingScript config).replay ws s) := by
  refine Script.replay_preserves (S := trackingScript config) (fun w hw s' hs' => ?_) ⟨fun _ h => h, fun _ h => h⟩
  have hrecords := hws w hw
  cases w with
  | record event currency reason occurredAt => exact hs'.record event currency reason occurredAt
  | correct c => cases hrecords
  | invoice draft charges => cases hrecords

variable (config) in
/-- What a statement of a request does to the request and to what is committed. -/
structure TrackStep (S : AdsSessions) (t : Nat) (p : AdsPoint) (S' : AdsSessions) : Prop where
  /-- **A repeat** answers the stored event, whether it was stored before or earlier in its batch, and neither locks nor
  writes anything. -/
  repeated : ∀ tracked rest answers, p.stage = .decided tracked rest answers →
    ∀ e ∈ ((trackingScript config).program.view S p).events, e.trackingKey = tracked.trackingKey →
      S'.find? t = some { p with stage := .tracking rest (answers ++ [.duplicate e e.isBillable]) }
  /-- A request that only had repeats changes nothing. -/
  unchanged : p.stage.answers.filterMap TrackAnswer.recorded? = [] → S'.committed = S.committed
  /-- All that it recorded is there at once, or nothing. -/
  adds : S'.committed = S.committed ∨ S'.committed.trackingKeys =
    S.committed.trackingKeys ++ (p.stage.answers.filterMap TrackAnswer.recorded?).map AdEvent.trackingKey

theorem trackStep {S S' : AdsSessions} {t : Nat} {p : AdsPoint} (hs : TrackedOnce S.committed)
    (h : TrackRelies p S.committed) (hfind : S.find? t = some p)
    (hstep : (trackingScript config).program.step S (.advance t) = some S') : TrackStep config S t p S' := by
  refine ⟨fun tracked rest answers hstage e he hkey => ?_, fun hnone => ?_, ?_⟩
  · obtain ⟨held, journal, stage⟩ := p
    subst hstage
    have hview : TrackedOnce ((trackingScript config).replay journal S.committed) := h.view hs
    have hfound := hview.existing he hkey
    have hmove : (trackingScript config).move (.decided tracked rest answers)
        ((trackingScript config).replay journal S.committed) =
        .on [] [] (.tracking rest (answers ++ [.duplicate e e.isBillable])) := by
      rw [← hview.chargeOf_isSome he]
      simp only [trackingScript, adsScript, trackMove] at hfound ⊢
      rw [hfound]
    have hnext : (trackingScript config).program.next ⟨held, journal, .decided tracked rest answers⟩
        ((trackingScript config).program.view S ⟨held, journal, .decided tracked rest answers⟩) =
        .goto ⟨held, journal ++ [], .tracking rest (answers ++ [.duplicate e e.isBillable])⟩ :=
      congrArg (Script.follow ⟨held, journal, .decided tracked rest answers⟩) hmove
    rw [List.append_nil] at hnext
    simp only [Program.step, hfind, Option.bind_some, hnext] at hstep
    split at hstep
    · obtain rfl := Option.some.inj hstep
      simp [Sessions.find?]
    · cases hstep
  · rcases Program.committed_advance hfind hstep with heq | ⟨-, heq⟩
    · exact heq
    · have hrecords : p.journal.filterMap AdsWrite.recorded? = [] := h.answered ▸ hnone
      have hnil : p.journal = [] := by
        refine List.eq_nil_iff_forall_not_mem.mpr fun w hw => ?_
        have hsome := h.records w hw
        rw [List.filterMap_eq_nil_iff.mp hrecords w hw] at hsome
        cases hsome
      rw [heq]
      change (trackingScript config).replay p.journal S.committed = _
      rw [hnil]
      rfl
  · rcases Program.committed_advance hfind hstep with heq | ⟨-, heq⟩
    · exact .inl heq
    · right
      rw [heq, h.answered]
      exact trackingKeys_replay h.records S.committed

/-- **A delivery is tracked once.**  In every interleaving of requests and batches there is one event for each delivery,
kind and request, with its charge and its reservation if it is billable; a repeat answers that event and adds nothing,
and no event or entry ever changes. -/
theorem tracked_once {S : AdsSessions} (h : (trackingMachine config).Reachable (fun _ _ => True) S) :
    TrackedOnce S.committed ∧
      (∀ t p S', S.find? t = some p → (trackingMachine config).step S (.advance t) = some S' →
        TrackStep config S t p S') ∧
      ∀ as S', (trackingMachine config).Run (fun _ _ => True) S as S' → KeptRows S.committed S'.committed := by
  have hserves : ∀ {S}, (trackingMachine config).Reachable (fun _ _ => True) S →
      Program.Serves TrackedOnce TrackRelies S := fun hS =>
    Program.serves tracking_disciplined (fun _ hinit => .of_noActivity hinit) hS
  have hrelies : ∀ {S : AdsSessions} {t p}, (trackingMachine config).Reachable (fun _ _ => True) S →
      S.find? t = some p → TrackRelies p S.committed := fun hS hfind =>
    (hserves hS).2 _ (Sessions.mem_of_find? hfind)
  refine ⟨(hserves h).1, fun t p S' hfind hstep => trackStep (hserves h).1 (hrelies h hfind) hfind hstep,
    fun as S' hrun => ?_⟩
  refine hrun.relates (P := (trackingMachine config).Reachable fun _ _ => True)
    (R := fun S S' => KeptRows S.committed S'.committed) (fun S => ⟨fun _ he => he, fun _ hl => hl⟩)
    (fun hab hbc => ⟨fun e he => hbc.events e (hab.events e he), fun l hl => hbc.ledger l (hab.ledger l hl)⟩)
    (fun S a S' hok hstep hS => hS.step hok hstep) (fun S a S' _ hstep hS => ?_) h
  cases Program.step_cases hstep with
  | committed hfind => exact KeptRows.replay (hrelies hS hfind).records S.committed
  | _ => exact ⟨fun _ he => he, fun _ hl => hl⟩

end Requests

section Examples

/-- A batch with the same click twice, and the click again while the batch is in progress and after it. -/
def repeatedClick : List (Act (List TrackItem)) :=
  [.start 1 [exampleClick, exampleClick], .start 2 [exampleClick]] ++ List.replicate 5 (.advance 1) ++
    [.advance 2, .advance 1] ++ List.replicate 2 (.advance 2) ++ .start 3 [exampleClick] ::
    List.replicate 3 (.advance 3)

theorem tracked_once_repeated :
    let S := (trackingMachine exampleAdsConfig).after ⟨exampleAdsDb, []⟩ repeatedClick
    S.committed.events.rows.map (·.isBillable) = [true] ∧ S.committed.ledger.rows.map (·.amountMicros) = [500000] ∧
      TrackedOnce S.committed := by
  have hinit : (trackingMachine exampleAdsConfig).init ⟨exampleAdsDb, []⟩ := ⟨⟨rfl, rfl, by decide⟩, rfl⟩
  exact ⟨by decide +kernel, by decide +kernel, (tracked_once (Machine.reachable_after _ hinit repeatedClick)).1⟩

end Examples

end AtlasErp
