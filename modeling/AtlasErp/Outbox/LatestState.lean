import AtlasErp.Outbox.Consumer

/-! # Latest state

Deliveries to a consumer in the order `latest-state`: each takes the key of its event and, if the version of the
aggregate advances, the row of this version, and applies its effect in the same transaction.

- `EventInbox.lastVersion_advance`: what an advance leaves of every aggregate;
- `LatestInv.step`: under any interleaving, with failures, the last version of an aggregate is that of the last effect
  on it, and covers whatever was registered;
- `latestState_converges`: versions are applied in increasing order, and the last one is the greatest delivered. -/

namespace AtlasErp

open Lib

/-! ## What the inbox knows of an event -/

namespace EventInbox

/-- The events that are registered, and for which consumer. -/
def entries (inbox : EventInbox) : List (String × InboxEvent) := inbox.rows.map fun row => (row.consumer, row.event)

/-- The event that a consumer registered under a key. -/
def eventOf? (inbox : EventInbox) (consumer key : String) : Option InboxEvent :=
  (inbox.entries.find? fun x => x.1 = consumer ∧ x.2.eventKey = key).map (·.2)

theorem registered_iff {inbox : EventInbox} {consumer key : String} :
    inbox.registered consumer key = true ↔ ∃ e, (consumer, e) ∈ inbox.entries ∧ e.eventKey = key := by
  simp only [registered, entries, List.any_eq_true, decide_eq_true_eq, List.mem_map, Prod.mk.injEq]
  constructor
  · rintro ⟨row, hrow, rfl, rfl⟩
    exact ⟨row.event, ⟨row, hrow, rfl, rfl⟩, rfl⟩
  · rintro ⟨_, ⟨row, hrow, rfl, rfl⟩, rfl⟩
    exact ⟨row, hrow, rfl, rfl⟩

theorem eventOf?_eq_some {inbox : EventInbox} {consumer key : String} {e : InboxEvent}
    (h : inbox.eventOf? consumer key = some e) : (consumer, e) ∈ inbox.entries ∧ e.eventKey = key := by
  obtain ⟨⟨c, e'⟩, hfind, rfl⟩ := Option.map_eq_some_iff.mp h
  obtain ⟨rfl, hkey⟩ : c = consumer ∧ e'.eventKey = key := by simpa using List.find?_some hfind
  exact ⟨List.mem_of_find?_eq_some hfind, hkey⟩

/-- **An advance** moves the last version of its aggregate, and no other. -/
theorem lastVersion_advance {inbox inbox' : EventInbox} {consumer : String} {a : EventAggregate}
    (h : inbox.advance consumer a = some inbox') (b : EventAggregate) :
    inbox'.lastVersion consumer b =
      if b.type = a.type ∧ b.id = a.id then some a.version else inbox.lastVersion consumer b := by
  unfold advance at h
  cases hlast : inbox.lastVersion consumer a with
  | none =>
    rw [hlast] at h
    obtain rfl := Option.some.inj h
    by_cases hb : b.type = a.type ∧ b.id = a.id
    · rw [if_pos hb]
      simp [lastVersion, hb.1, hb.2]
    · rw [if_neg hb]
      have hne : ¬(a.type = b.type ∧ a.id = b.id) := fun heq => hb ⟨heq.1.symm, heq.2.symm⟩
      simp [lastVersion, hne]
  | some last =>
    rw [hlast] at h
    dsimp only at h
    split at h
    case isFalse => cases h
    obtain rfl := Option.some.inj h
    -- the rows keep their keys, so the same row is found
    have hsame : ((fun row : InboxAggregateRow => decide (row.consumer = consumer ∧ row.type = b.type ∧ row.id = b.id)) ∘
        fun row => if row.consumer = consumer ∧ row.type = a.type ∧ row.id = a.id then
          { row with lastVersion := a.version } else row) =
        fun row => decide (row.consumer = consumer ∧ row.type = b.type ∧ row.id = b.id) := by
      funext row
      dsimp only [Function.comp]
      split <;> rfl
    simp only [lastVersion, List.find?_map, hsame, Option.map_map]
    cases hfind : inbox.aggregates.find? fun row =>
        decide (row.consumer = consumer ∧ row.type = b.type ∧ row.id = b.id) with
    | none =>
      by_cases hb : b.type = a.type ∧ b.id = a.id
      · simp only [lastVersion, ← hb.1, ← hb.2, hfind] at hlast
        cases hlast
      · rw [if_neg hb]
        rfl
    | some row =>
      obtain ⟨hconsumer, htype, hid⟩ : row.consumer = consumer ∧ row.type = b.type ∧ row.id = b.id := by
        simpa using List.find?_some hfind
      by_cases hb : b.type = a.type ∧ b.id = a.id
      · rw [if_pos hb]
        simp [hconsumer, htype, hid, hb.1, hb.2]
      · rw [if_neg hb]
        simp [hconsumer, htype, hid, hb]

end EventInbox

section Inserted

variable {consumer : String} {inbox : EventInbox} {r : Request}

theorem entries_setOutcome (inbox : EventInbox) (consumer key : String) (outcome : InboxOutcome) :
    (inbox.setOutcome consumer key outcome).entries = inbox.entries := by
  rw [EventInbox.entries, EventInbox.setOutcome, List.map_map]
  refine List.map_congr_left fun row _ => ?_
  dsimp only [Function.comp]
  split <;> rfl

theorem entries_advance {inbox' : EventInbox} {a : EventAggregate} (h : inbox.advance consumer a = some inbox') :
    inbox'.entries = inbox.entries := by
  unfold EventInbox.advance at h
  split at h
  · cases h
    rfl
  · split at h <;> cases h
    rfl

theorem entries_insertedInbox (advanced : Bool) (outcome : Option InboxOutcome) :
    (insertedInbox consumer inbox r advanced outcome).entries = (consumer, r.event) :: inbox.entries := by
  have hordered : (if advanced then
      ((inbox.register consumer r.event).advance consumer r.envelope.aggregate).getD (inbox.register consumer r.event)
      else inbox.register consumer r.event).entries = (consumer, r.event) :: inbox.entries := by
    split
    · cases h : (inbox.register consumer r.event).advance consumer r.envelope.aggregate with
      | none => rfl
      | some inbox' => exact (entries_advance h).trans rfl
    · rfl
  unfold insertedInbox
  cases outcome with
  | none => exact hordered
  | some outcome => exact (entries_setOutcome _ _ _ _).trans hordered

theorem eventOf?_insertedInbox (advanced : Bool) (outcome : Option InboxOutcome) (key : String) :
    (insertedInbox consumer inbox r advanced outcome).eventOf? consumer key =
      if r.eventKey = key then some r.event else inbox.eventOf? consumer key := by
  rw [EventInbox.eventOf?, entries_insertedInbox]
  by_cases hkey : r.eventKey = key
  · have hself : r.event.eventKey = key := hkey
    rw [List.find?_cons_of_pos (by simp [hself]), if_pos hkey]
    rfl
  · have hself : r.event.eventKey ≠ key := hkey
    rw [List.find?_cons_of_neg (by simp [hself]), if_neg hkey]
    rfl

/-- A version advances where it is above the last one. -/
theorem advance_isSome {a : EventAggregate} :
    (inbox.advance consumer a).isSome = true ↔ ∀ last, inbox.lastVersion consumer a = some last → last < a.version := by
  unfold EventInbox.advance
  cases hlast : inbox.lastVersion consumer a with
  | none => simp
  | some last =>
    dsimp only
    split <;> simp_all

theorem lastVersion_insertedInbox (outcome : Option InboxOutcome) (b : EventAggregate) :
    (insertedInbox consumer inbox r false outcome).lastVersion consumer b = inbox.lastVersion consumer b := by
  cases outcome <;> rfl

theorem lastVersion_insertedInbox_advanced (outcome : Option InboxOutcome)
    (h : ∀ last, inbox.lastVersion consumer r.envelope.aggregate = some last → last < r.envelope.aggregate.version)
    (b : EventAggregate) :
    (insertedInbox consumer inbox r true outcome).lastVersion consumer b =
      if b.type = r.envelope.aggregate.type ∧ b.id = r.envelope.aggregate.id then some r.envelope.aggregate.version
      else inbox.lastVersion consumer b := by
  obtain ⟨inbox', hadvance⟩ := Option.isSome_iff_exists.mp
    ((@advance_isSome consumer (inbox.register consumer r.event) r.envelope.aggregate).mpr h)
  have hordered := EventInbox.lastVersion_advance hadvance b
  simp only [insertedInbox, if_true, hadvance, Option.getD_some]
  cases outcome <;> exact hordered

end Inserted

/-! ## The versions that were applied -/

/-- The version of an event, if it is about an aggregate. -/
def InboxEvent.versionOf (e : InboxEvent) (type id : String) : Option Nat :=
  e.aggregate.bind fun a => if a.type = type ∧ a.id = id then some a.version else none

theorem versionOf_event {r : Request} {type id : String} {v : Nat} (h : r.event.versionOf type id = some v) :
    r.envelope.aggregate = ⟨type, id, v⟩ := by
  obtain ⟨a, ha, hv⟩ := Option.bind_eq_some_iff.mp h
  obtain rfl : r.envelope.aggregate = a := Option.some.inj ha
  split at hv
  · rename_i habout
    obtain ⟨htype, hid⟩ := habout
    rw [← htype, ← hid, ← Option.some.inj hv]
  · cases hv

section Versions

variable {α : Type} (consumer : String)

/-- The versions of an aggregate whose effects were committed, the last one first. -/
def appliedVersions (s : ConsumerDb α) (type id : String) : List Nat :=
  s.effects.filterMap fun key => (s.inbox.eventOf? consumer key).bind (·.versionOf type id)

/-- What the consumer last applied to an aggregate, as the table of versions has it. -/
def lastApplied (s : ConsumerDb α) (type id : String) : Option Nat := s.inbox.lastVersion consumer ⟨type, id, 0⟩

variable {ordering : InboxOrdering} {effect : InboxEvent → Effect α} {inbox₀ : EventInbox}

/-- What a delivery relies on once it looked at the version of its aggregate. -/
def ConsumerPoint.Ordered (s : ConsumerDb α) : ConsumerPoint α → Prop
  | .stale r => ∃ last, s.inbox.lastVersion consumer r.envelope.aggregate = some last ∧
      r.envelope.aggregate.version ≤ last
  | .applying r advanced _ _ _ => advanced = true ∧
      ∀ last, s.inbox.lastVersion consumer r.envelope.aggregate = some last → last < r.envelope.aggregate.version
  | _ => True

/-- What holds of a consumer in the order `latest-state`. -/
structure LatestInv (S : Sessions (ConsumerDb α) (ConsumerPoint α)) : Prop where
  /-- What is registered was served. -/
  entriesServed : ∀ e, (consumer, e) ∈ S.committed.inbox.entries → ∃ r ∈ S.committed.served, r.event = e
  /-- No event that is registered is beyond the last version. -/
  covered : ∀ e, (consumer, e) ∈ S.committed.inbox.entries → ∀ type id v, e.versionOf type id = some v →
    ∃ last, lastApplied consumer S.committed type id = some last ∧ v ≤ last
  last : ∀ type id, lastApplied consumer S.committed type id = (appliedVersions consumer S.committed type id).head?
  increasing : ∀ type id, (appliedVersions consumer S.committed type id).Pairwise (· > ·)
  ordered : ∀ x ∈ S.active, x.2.Ordered consumer S.committed

variable {consumer} {S S' : Sessions (ConsumerDb α) (ConsumerPoint α)}

theorem ConsumerPoint.Ordered.congr {s s' : ConsumerDb α} {p : ConsumerPoint α} (h : p.Ordered consumer s)
    (hsame : ∀ a : EventAggregate, ConsumerLock.aggregate a.type a.id ∈ (consumerProgram consumer ordering effect).locks p →
      s'.inbox.lastVersion consumer a = s.inbox.lastVersion consumer a) : p.Ordered consumer s' := by
  rcases p with r | r | r | r | ⟨r, advanced, outcome, written, rest⟩
  · trivial
  · trivial
  · trivial
  · rw [ConsumerPoint.Ordered, hsame r.envelope.aggregate (List.mem_cons_of_mem _ List.mem_cons_self)]
    exact h
  · obtain ⟨rfl, hlast⟩ := h
    refine ⟨rfl, ?_⟩
    rw [hsame r.envelope.aggregate (List.mem_cons_of_mem _ List.mem_cons_self)]
    exact hlast

/-- The effects that were committed are on events whose key is not the one that is inserted. -/
theorem filterMap_insertedInbox {s : ConsumerDb α} {r : Request}
    (heffects : ∀ key ∈ s.effects, s.inbox.registered consumer key = true)
    (hfresh : s.inbox.registered consumer r.eventKey = false) (advanced : Bool) (outcome : Option InboxOutcome)
    (type id : String) :
    s.effects.filterMap (fun key => ((insertedInbox consumer s.inbox r advanced outcome).eventOf? consumer key).bind
      (·.versionOf type id)) = appliedVersions consumer s type id := by
  refine List.filterMap_congr fun key hkey => ?_
  have hne : r.eventKey ≠ key := by
    rintro rfl
    rw [heffects _ hkey] at hfresh
    cases hfresh
  rw [eventOf?_insertedInbox, if_neg hne]

namespace LatestInv

/-- A delivery that joins, or goes on. -/
private theorem join (h : LatestInv consumer S) {t : Nat} {p : ConsumerPoint α}
    (hp : p.Ordered consumer S.committed) : LatestInv consumer { S with active := (t, p) :: S.others t } where
  entriesServed := h.entriesServed
  covered := h.covered
  last := h.last
  increasing := h.increasing
  ordered := List.forall_mem_cons.mpr ⟨hp, fun x hx => h.ordered x (Sessions.mem_others.mp hx).1⟩

private theorem leave (h : LatestInv consumer S) (t : Nat) : LatestInv consumer { S with active := S.others t } where
  entriesServed := h.entriesServed
  covered := h.covered
  last := h.last
  increasing := h.increasing
  ordered x hx := h.ordered x (Sessions.mem_others.mp hx).1

/-- The commit of a delivery that found its key. -/
private theorem duplicate (h : LatestInv consumer S) (t : Nat) (r : Request) :
    LatestInv consumer ⟨{ S.committed with served := r :: S.committed.served }, S.others t⟩ where
  entriesServed e he := (h.entriesServed e he).imp fun _ hr => ⟨List.mem_cons_of_mem _ hr.1, hr.2⟩
  covered := h.covered
  last := h.last
  increasing := h.increasing
  ordered x hx := h.ordered x (Sessions.mem_others.mp hx).1

/-- The commit of a delivery whose version is not above the last one. -/
private theorem stale (h : LatestInv consumer S) (hc : ConsumerInv consumer .latestState effect inbox₀ S) {t : Nat}
    {r : Request} (hp : (t, .stale r) ∈ S.active) :
    LatestInv consumer ⟨(consumerProgram consumer .latestState effect).writes (.stale r) S.committed, S.others t⟩ := by
  obtain ⟨last, hlast, hle⟩ := h.ordered _ hp
  have hversions : ∀ type id, appliedVersions consumer
      ((consumerProgram consumer .latestState effect).writes (.stale r) S.committed) type id =
        appliedVersions consumer S.committed type id :=
    filterMap_insertedInbox hc.effectRegistered (hc.fresh _ hp r rfl) false (some .stale)
  have hsame : ∀ b, ((consumerProgram consumer .latestState effect).writes (.stale r) S.committed).inbox.lastVersion
      consumer b = S.committed.inbox.lastVersion consumer b := lastVersion_insertedInbox (some .stale)
  have hentries : ∀ e, (consumer, e) ∈ ((consumerProgram consumer .latestState effect).writes (.stale r)
      S.committed).inbox.entries → e = r.event ∨ (consumer, e) ∈ S.committed.inbox.entries := by
    intro e he
    rw [show ((consumerProgram consumer .latestState effect).writes (.stale r) S.committed).inbox.entries =
      (consumer, r.event) :: S.committed.inbox.entries from entries_insertedInbox false (some .stale)] at he
    exact (List.mem_cons.mp he).imp (fun heq => congrArg Prod.snd heq) fun he => he
  refine ⟨fun e he => ?_, fun e he type id v hv => ?_, fun type id => ?_, fun type id => ?_, fun x hx => ?_⟩
  · rcases hentries e he with rfl | he
    · exact ⟨r, List.mem_cons_self, rfl⟩
    · exact (h.entriesServed e he).imp fun _ hr => ⟨List.mem_cons_of_mem _ hr.1, hr.2⟩
  · rw [lastApplied, hsame]
    rcases hentries e he with rfl | he
    · have hagg := versionOf_event hv
      rw [hagg] at hlast hle
      exact ⟨last, hlast, hle⟩
    · exact h.covered e he type id v hv
  · rw [lastApplied, hsame, hversions]
    exact h.last type id
  · rw [hversions]
    exact h.increasing type id
  · exact @ConsumerPoint.Ordered.congr _ _ .latestState effect _ _ x.2
      (h.ordered x (Sessions.mem_others.mp hx).1) fun a _ => hsame a

/-- The commit of an effect. -/
private theorem applied (h : LatestInv consumer S) (hc : ConsumerInv consumer .latestState effect inbox₀ S) {t : Nat}
    {r : Request} {advanced : Bool} {outcome : Option InboxOutcome} {written : α → α}
    (hp : (t, .applying r advanced outcome written .done) ∈ S.active) :
    LatestInv consumer ⟨(consumerProgram consumer .latestState effect).writes (.applying r advanced outcome written .done)
      S.committed, S.others t⟩ := by
  obtain ⟨rfl, habove⟩ := h.ordered _ hp
  obtain ⟨s', hs'⟩ : ∃ s', s' = (consumerProgram consumer .latestState effect).writes
    (.applying r true outcome written .done) S.committed := ⟨_, rfl⟩
  have hinbox : s'.inbox = insertedInbox consumer S.committed.inbox r true outcome := by rw [hs']; rfl
  have heffects : s'.effects = r.eventKey :: S.committed.effects := by rw [hs']; rfl
  have hserved : s'.served = r :: S.committed.served := by rw [hs']; rfl
  rw [← hs']
  have hlast : ∀ b, s'.inbox.lastVersion consumer b =
      if b.type = r.envelope.aggregate.type ∧ b.id = r.envelope.aggregate.id then some r.envelope.aggregate.version
      else S.committed.inbox.lastVersion consumer b := by
    rw [hinbox]
    exact lastVersion_insertedInbox_advanced outcome habove
  have hversions : ∀ type id, appliedVersions consumer s' type id =
      (r.event.versionOf type id).toList ++ appliedVersions consumer S.committed type id := by
    intro type id
    have hold := filterMap_insertedInbox hc.effectRegistered (hc.fresh _ hp r rfl) true outcome type id
    rw [appliedVersions, heffects, hinbox, List.filterMap_cons, hold, eventOf?_insertedInbox, if_pos rfl, Option.bind_some]
    cases r.event.versionOf type id <;> rfl
  have hentries : ∀ e, (consumer, e) ∈ s'.inbox.entries → e = r.event ∨ (consumer, e) ∈ S.committed.inbox.entries := by
    intro e he
    rw [hinbox, entries_insertedInbox] at he
    exact (List.mem_cons.mp he).imp (fun heq => congrArg Prod.snd heq) fun he => he
  -- an event about this aggregate, or about another one
  have hother : ∀ type id, r.event.versionOf type id = none →
      ¬(type = r.envelope.aggregate.type ∧ id = r.envelope.aggregate.id) := by
    rintro type id hnone ⟨rfl, rfl⟩
    simp [InboxEvent.versionOf, OutboxEnvelope.inboxEvent] at hnone
  refine ⟨fun e he => ?_, fun e he type id v hv => ?_, fun type id => ?_, fun type id => ?_, fun x hx => ?_⟩
  · rw [hserved]
    rcases hentries e he with rfl | he
    · exact ⟨r, List.mem_cons_self, rfl⟩
    · exact (h.entriesServed e he).imp fun _ hr => ⟨List.mem_cons_of_mem _ hr.1, hr.2⟩
  · rw [lastApplied, hlast]
    by_cases habout : type = r.envelope.aggregate.type ∧ id = r.envelope.aggregate.id
    · rw [if_pos habout]
      refine ⟨_, rfl, ?_⟩
      rcases hentries e he with rfl | he
      · rw [versionOf_event hv]
      · obtain ⟨last, hold, hle⟩ := h.covered e he type id v hv
        have := habove last (by rw [← hold, lastApplied, habout.1, habout.2]; rfl)
        omega
    · rw [if_neg habout]
      rcases hentries e he with rfl | he
      · exact absurd ⟨by rw [versionOf_event hv], by rw [versionOf_event hv]⟩ habout
      · exact h.covered e he type id v hv
  · rw [lastApplied, hlast, hversions]
    cases hv : r.event.versionOf type id with
    | none =>
      rw [if_neg (hother type id hv)]
      exact h.last type id
    | some v =>
      rw [versionOf_event hv]
      simp
  · rw [hversions]
    cases hv : r.event.versionOf type id with
    | none => exact h.increasing type id
    | some v =>
      refine List.pairwise_cons.mpr ⟨fun w hw => ?_, h.increasing type id⟩
      -- the last version is the greatest, and this one is above it
      have hhead := h.last type id
      cases hlist : appliedVersions consumer S.committed type id with
      | nil =>
        rw [hlist] at hw
        cases hw
      | cons top rest =>
        have hincreasing := h.increasing type id
        rw [hlist] at hw hhead hincreasing
        have htop : top < v := by
          have := habove top
          rw [versionOf_event hv] at this
          exact this hhead
        rcases List.mem_cons.mp hw with rfl | hw
        · exact htop
        · exact lt_trans ((List.pairwise_cons.mp hincreasing).1 w hw) htop
  · obtain ⟨hmem, hne⟩ := Sessions.mem_others.mp hx
    refine @ConsumerPoint.Ordered.congr _ _ .latestState effect _ _ x.2 (h.ordered x hmem) fun a ha => ?_
    rw [hlast, if_neg]
    rintro ⟨htype, hid⟩
    -- this delivery holds the row of its aggregate
    refine hc.exclusive x hmem (t, _) hp hne _ ha ?_
    rw [htype, hid]
    exact List.mem_cons_of_mem _ List.mem_cons_self

/-- **One step** of the deliveries, whatever their interleaving and their failures. -/
theorem step (h : LatestInv consumer S) (hc : ConsumerInv consumer .latestState effect inbox₀ S) {a : Act Request}
    (hstep : (consumerProgram consumer .latestState effect).step S a = some S') : LatestInv consumer S' := by
  cases Program.step_cases hstep with
  | started => exact h.join trivial
  | @moved t p p' hfind hnext hfree =>
    have hp := h.ordered _ (S.mem_of_find? hfind)
    rcases p with r | r | r | r | ⟨r, advanced, outcome, written, _ | _ | _ | _⟩
    · simp only [consumerProgram] at hnext
      split at hnext
      · cases hnext
      · split at hnext <;> cases hnext <;> exact h.join trivial
    · cases hnext
    · simp only [consumerProgram] at hnext
      have hsame := @lastVersion_insertedInbox consumer S.committed.inbox r none r.envelope.aggregate
      split at hnext
      · rename_i hadvance
        cases hnext
        refine h.join ⟨rfl, fun last hlast => advance_isSome.mp hadvance last (hsame.trans hlast)⟩
      · rename_i hadvance
        cases hnext
        rw [advance_isSome] at hadvance
        obtain ⟨last, hlast, hle⟩ : ∃ last, _ ∧ ¬last < r.envelope.aggregate.version := by simpa using hadvance
        exact h.join ⟨last, hsame.symm.trans hlast, Nat.not_lt.mp hle⟩
    · cases hnext
    · cases hnext
    · cases hnext
    · cases hnext
      exact h.join hp
    · cases hnext
      exact h.join hp
  | @committed t p hfind hnext =>
    have hp := S.mem_of_find? hfind
    rcases commit_cases hnext with ⟨r, rfl⟩ | ⟨r, rfl⟩ | ⟨r, advanced, outcome, written, rfl⟩
    · exact h.duplicate t r
    · exact h.stale hc hp
    · exact h.applied hc hp
  | rolledBack => exact h.leave _
  | failed => exact h.leave _

end LatestInv

end Versions

/-! ## Convergence -/

section Convergence

variable {α : Type} {consumer : String} {effect : InboxEvent → Effect α} {s₀ : ConsumerDb α}
  {S : Sessions (ConsumerDb α) (ConsumerPoint α)} {acts : List (Act Request)}

/-- Nothing was delivered to the consumer yet. -/
structure ConsumerDb.Untouched (consumer : String) (s : ConsumerDb α) : Prop where
  entries : ∀ e, (consumer, e) ∉ s.inbox.entries
  versions : ∀ a, s.inbox.lastVersion consumer a = none
  effects : s.effects = []
  served : s.served = []

/-- The deliveries that begin in a run, with their repetitions. -/
def deliveries (acts : List (Act Request)) : List Request := acts.filterMap fun
  | .start _ r => some r
  | _ => none

theorem mem_deliveries {t : Nat} {r : Request} (h : .start t r ∈ acts) : r ∈ deliveries acts :=
  List.mem_filterMap.mpr ⟨_, h, rfl⟩

/-- The deliveries to a consumer in the order `latest-state`. -/
def latestMachine (consumer : String) (effect : InboxEvent → Effect α) :
    Machine (Sessions (ConsumerDb α) (ConsumerPoint α)) (Act Request) :=
  (consumerProgram consumer .latestState effect).machine (·.Untouched consumer)

theorem latestInv_init (h : s₀.Untouched consumer) : LatestInv consumer (⟨s₀, []⟩ : Sessions _ (ConsumerPoint α)) where
  entriesServed e he := absurd he (h.entries e)
  covered e he := absurd he (h.entries e)
  last type id := by rw [lastApplied, h.versions, appliedVersions, h.effects]; rfl
  increasing type id := by rw [appliedVersions, h.effects]; exact .nil
  ordered _ h := absurd h List.not_mem_nil

/-- What holds after any run. -/
theorem latestInv_of_run (h : s₀.Untouched consumer)
    (hrun : (latestMachine consumer effect).Run (fun _ _ => True) ⟨s₀, []⟩ acts S) :
    ConsumerInv consumer .latestState effect s₀.inbox S ∧ LatestInv consumer S :=
  hrun.preserves (P := fun S => ConsumerInv consumer .latestState effect s₀.inbox S ∧ LatestInv consumer S)
    (fun _ _ _ _ hstep hS => ⟨hS.1.step hstep, hS.2.step hS.1 hstep⟩)
    ⟨consumerInv_init rfl h.effects h.served, latestInv_init h⟩

/-- Only what was delivered is served. -/
theorem servesOnly_of_run {sent : Request → Prop} {S₀ : Sessions (ConsumerDb α) (ConsumerPoint α)}
    (hrun : (latestMachine consumer effect).Run (fun _ _ => True) S₀ acts S)
    (hsent : ∀ t r, .start t r ∈ acts → sent r) (h : ServesOnly sent S₀) : ServesOnly sent S := by
  induction hrun with
  | nil => exact h
  | @cons S S' S'' a as _ hstep _ ih =>
    refine ih (fun t r hr => hsent t r (List.mem_cons_of_mem _ hr)) (h.step (fun t r heq => ?_) hstep)
    exact hsent t r (heq ▸ List.mem_cons_self)

/-- **Latest state.** Over every run of deliveries, in any order, repeated, concurrent and failing, the versions
applied to an aggregate increase; and when every event was delivered successfully, the last version applied is the
greatest that was delivered. -/
theorem latestState_converges (hinit : s₀.Untouched consumer)
    (hrun : (latestMachine consumer effect).Run (fun _ _ => True) ⟨s₀, []⟩ acts S) (type id : String) :
    (appliedVersions consumer S.committed type id).Pairwise (· > ·) ∧
      ((∀ r ∈ deliveries acts, ∀ r' ∈ deliveries acts, r.eventKey = r'.eventKey → r.event = r'.event) →
        (∀ r ∈ deliveries acts, ∃ r' ∈ S.committed.served, r'.event = r.event) →
        (appliedVersions consumer S.committed type id).head? =
            ((deliveries acts).filterMap (·.event.versionOf type id)).max? ∧
          lastApplied consumer S.committed type id =
            ((deliveries acts).filterMap (·.event.versionOf type id)).max?) := by
  obtain ⟨hc, hlatest⟩ := latestInv_of_run hinit hrun
  have hserved : ∀ r ∈ S.committed.served, r ∈ deliveries acts := by
    have hstart : ServesOnly (· ∈ deliveries acts) (⟨s₀, []⟩ : Sessions (ConsumerDb α) (ConsumerPoint α)) :=
      ⟨fun _ h => absurd h List.not_mem_nil, fun r hr => by rw [hinit.served] at hr; cases hr⟩
    exact (servesOnly_of_run hrun (fun t r => mem_deliveries) hstart).2
  refine ⟨hlatest.increasing type id, fun hkeyed hall => ?_⟩
  -- whatever was delivered is registered, so the last version covers it
  have hcovered : ∀ r ∈ deliveries acts, ∀ v, r.event.versionOf type id = some v →
      ∃ last, lastApplied consumer S.committed type id = some last ∧ v ≤ last := by
    intro r hr v hv
    obtain ⟨r', hr', hevent⟩ := hall r hr
    obtain ⟨e, he, hkey⟩ := EventInbox.registered_iff.mp (hc.servedRegistered r' hr')
    obtain ⟨r'', hr'', rfl⟩ := hlatest.entriesServed e he
    have hsame := hkeyed r'' (hserved r'' hr'') r' (hserved r' hr') hkey
    exact hlatest.covered _ he type id v (by rw [hsame, hevent]; exact hv)
  have happlied : ∀ v ∈ appliedVersions consumer S.committed type id,
      v ∈ (deliveries acts).filterMap (·.event.versionOf type id) := by
    intro v hv
    obtain ⟨key, -, hv⟩ := List.mem_filterMap.mp hv
    obtain ⟨e, he, hv⟩ := Option.bind_eq_some_iff.mp hv
    obtain ⟨r, hr, rfl⟩ := hlatest.entriesServed e (EventInbox.eventOf?_eq_some he).1
    exact List.mem_filterMap.mpr ⟨r, hserved r hr, hv⟩
  have hgreatest : lastApplied consumer S.committed type id =
      ((deliveries acts).filterMap (·.event.versionOf type id)).max? := by
    cases hlast : lastApplied consumer S.committed type id with
    | none =>
      refine (List.max?_eq_none_iff.mpr (List.filterMap_eq_nil_iff.mpr fun r hr => ?_)).symm
      refine Option.eq_none_iff_forall_ne_some.mpr fun v hv => ?_
      obtain ⟨last, hsome, -⟩ := hcovered r hr v hv
      rw [hlast] at hsome
      cases hsome
    | some last =>
      refine (List.max?_eq_some_iff.mpr ⟨happlied last ?_, fun v hv => ?_⟩).symm
      · exact List.mem_of_mem_head? (by rw [← hlatest.last type id, hlast]; rfl)
      · obtain ⟨r, hr, hv⟩ := List.mem_filterMap.mp hv
        obtain ⟨last', hsome, hle⟩ := hcovered r hr v hv
        rw [hlast] at hsome
        exact Option.some.inj hsome ▸ hle
  exact ⟨(hlatest.last type id).symm.trans hgreatest, hgreatest⟩

/-- A consumer that keeps the last version it was told. -/
def keepVersion (e : InboxEvent) : Effect Nat := .query (fun _ _ => ((e.aggregate.map (·.version)).getD 0)) fun _ => .done

def emptyConsumer : ConsumerDb Nat := ⟨⟨[], []⟩, 0, [], []⟩

theorem emptyConsumer_untouched : emptyConsumer.Untouched "core" := ⟨nofun, fun _ => rfl, rfl, rfl⟩

/-- A delivery of a version of one account. -/
def versionRequest (number version : Nat) : Request :=
  ⟨number, 1, ⟨"atlas.erp.outbox/1", toString version, "account.updated", 1, ⟨"b2b_account", "a1", version⟩, 0,
    "atlas-erp", "\x7b\x7d"⟩⟩

/-- The second version arrives first; the third fails at first, with the first one beside it; the second is
repeated. -/
def lateVersions : List (Act Request) :=
  [.start 0 (versionRequest 0 2), .advance 0, .advance 0, .advance 0, .advance 0,
    .start 1 (versionRequest 1 3), .start 2 (versionRequest 2 1), .advance 1, .advance 2, .advance 1, .fail 1,
    .advance 2, .advance 2, .start 3 (versionRequest 3 2), .advance 3, .advance 3,
    .start 4 (versionRequest 4 3), .advance 4, .advance 4, .advance 4, .advance 4]

theorem latestState_converges_late :
    appliedVersions "core" ((latestMachine "core" keepVersion).after ⟨emptyConsumer, []⟩ lateVersions).committed
        "b2b_account" "a1" = [3, 2] ∧
      (appliedVersions "core" ((latestMachine "core" keepVersion).after ⟨emptyConsumer, []⟩ lateVersions).committed
          "b2b_account" "a1").head? =
        ((deliveries lateVersions).filterMap (·.event.versionOf "b2b_account" "a1")).max? :=
  ⟨by decide,
    ((latestState_converges emptyConsumer_untouched ((latestMachine "core" keepVersion).run_after (by decide))
      "b2b_account" "a1").2 (by decide) (by decide)).1⟩

end Convergence

end AtlasErp
