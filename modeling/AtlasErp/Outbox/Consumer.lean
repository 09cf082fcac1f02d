import AtlasErp.Lib.ReadCommitted
import AtlasErp.Outbox.Relay

/-! # A consumer of the outbox

The transaction in which a receiver serves a request: `consumeOnce` around an effect of any number of
statements.  The insertion of the key takes the unique index, so two deliveries of one event wait for
each other; a failure rolls back the key with the effect.

- `consumer_alone`: alone, the transaction does what `consumeOnce` computes;
- `ConsumerInv.step`: under any interleaving the effect of a key is committed at most once, and what
  was served is registered. -/

namespace AtlasErp

open Lib

/-! ## Effects -/

/-- The effect of an event, statement by statement.  A statement sees the data of the application and
writes on them; the effect may also set the outcome of the event in the inbox, and may fail. -/
inductive Effect (α : Type) where
  | done
  | fail (error : HttpError)
  | query (write : α → α → α) (rest : α → Effect α)
  | setOutcome (outcome : InboxOutcome) (rest : Effect α)

/-- An effect on data that nobody else writes. -/
def Effect.run {α : Type} (consumer eventKey : String) :
    Effect α → EventInbox → α → Except HttpError (Unit × EventInbox × α)
  | .done, inbox, app => .ok ((), inbox, app)
  | .fail error, _, _ => .error error
  | .query write rest, inbox, app => (rest app).run consumer eventKey inbox (write app app)
  | .setOutcome outcome rest, inbox, app =>
    rest.run consumer eventKey (inbox.setOutcome consumer eventKey outcome) app

/-- A delivery on the wire: its number, the attempt it belongs to and the envelope. -/
structure Request where
  number : Nat
  attempt : Nat
  envelope : OutboxEnvelope
  deriving DecidableEq

abbrev Request.event (r : Request) : InboxEvent := r.envelope.inboxEvent

abbrev Request.eventKey (r : Request) : String := r.envelope.eventKey

/-- The database of a consumer.  `effects` and `served` are history: the keys of the effects that were
committed, and the requests whose transaction was. -/
structure ConsumerDb (α : Type) where
  inbox : EventInbox
  app : α
  effects : List String
  served : List Request

/-- What a delivery locks: a key of the inbox, the last version of an aggregate. -/
inductive ConsumerLock where
  | key (eventKey : String)
  | aggregate (type id : String)
  deriving DecidableEq

/-- How far a delivery has come. -/
inductive ConsumerPoint (α : Type) where
  | begun (r : Request)
  | duplicate (r : Request)
  | registered (r : Request)
  | stale (r : Request)
  /-- Within the effect: whether the version was advanced, the outcome that was set, the writes so far
  and the statements to come. -/
  | applying (r : Request) (advanced : Bool) (outcome : Option InboxOutcome) (written : α → α)
      (rest : Effect α)

section Transaction

variable {α : Type} (consumer : String) (ordering : InboxOrdering) (effect : InboxEvent → Effect α)

/-- The inbox of a delivery within its effect. -/
def insertedInbox (inbox : EventInbox) (r : Request) (advanced : Bool) (outcome : Option InboxOutcome) :
    EventInbox :=
  let inserted := inbox.register consumer r.event
  let ordered := if advanced then (inserted.advance consumer r.envelope.aggregate).getD inserted else inserted
  match outcome with
  | none => ordered
  | some outcome => ordered.setOutcome consumer r.eventKey outcome

/-- The transaction of a receiver. -/
def consumerProgram : Program (ConsumerDb α) Request ConsumerLock (ConsumerPoint α) where
  start := .begun
  locks
    | .begun _ | .duplicate _ => []
    | .registered r => [.key r.eventKey]
    | .stale r => [.key r.eventKey, .aggregate r.envelope.aggregate.type r.envelope.aggregate.id]
    | .applying r advanced _ _ _ =>
      .key r.eventKey ::
        if advanced then [.aggregate r.envelope.aggregate.type r.envelope.aggregate.id] else []
  writes
    | .begun _, s => s
    | .duplicate r, s => { s with served := r :: s.served }
    | .registered r, s => { s with inbox := insertedInbox consumer s.inbox r false none }
    | .stale r, s =>
      { s with inbox := insertedInbox consumer s.inbox r false (some .stale), served := r :: s.served }
    | .applying r advanced outcome written _, s =>
      { inbox := insertedInbox consumer s.inbox r advanced outcome
        app := written s.app
        effects := r.eventKey :: s.effects
        served := r :: s.served }
  next
    | .begun r, s =>
      if ordering.missesVersion r.event then .rollback
      -- `ON CONFLICT (consumer, event_key) DO NOTHING`
      else if s.inbox.registered consumer r.eventKey then .goto (.duplicate r) else .goto (.registered r)
    | .duplicate _, _ => .commit
    | .registered r, s =>
      match ordering with
      | .everyEvent => .goto (.applying r false none id (effect r.event))
      | .latestState =>
        if (s.inbox.advance consumer r.envelope.aggregate).isSome then
          .goto (.applying r true none id (effect r.event))
        else .goto (.stale r)
    | .stale _, _ => .commit
    | .applying _ _ _ _ .done, _ => .commit
    | .applying _ _ _ _ (.fail _), _ => .rollback
    | .applying r advanced outcome written (.query write rest), s =>
      .goto (.applying r advanced outcome (fun app => write s.app (written app)) (rest s.app))
    | .applying r advanced _ written (.setOutcome outcome rest), _ =>
      .goto (.applying r advanced (some outcome) written rest)
  locks_start _ := rfl
  locks_next {p p' s} h k hk := by
    rcases p with r | r | r | r | ⟨r, advanced, outcome, written, _ | _ | _ | _⟩
    · cases hk
    · cases hk
    · obtain rfl := List.mem_singleton.mp hk
      dsimp only at h
      split at h
      · cases h
        exact List.mem_cons_self
      · split at h <;> cases h <;> exact List.mem_cons_self
    · cases h
    · cases h
    · cases h
    · cases h
      exact hk
    · cases h
      exact hk

end Transaction

/-! ## A delivery alone -/

section Alone

variable {α : Type} {consumer : String} {ordering : InboxOrdering} {effect : InboxEvent → Effect α}

theorem setOutcome_setOutcome (inbox : EventInbox) (key : String) (first second : InboxOutcome) :
    (inbox.setOutcome consumer key first).setOutcome consumer key second =
      inbox.setOutcome consumer key second := by
  simp only [EventInbox.setOutcome, List.map_map]
  refine congrArg (EventInbox.mk · _) (List.map_congr_left fun row _ => ?_)
  by_cases hrow : row.consumer = consumer ∧ row.event.eventKey = key
  · simp [hrow]
  · simp [hrow]

theorem setOutcome_insertedInbox (inbox : EventInbox) (r : Request) (advanced : Bool)
    (outcome : Option InboxOutcome) (second : InboxOutcome) :
    (insertedInbox consumer inbox r advanced outcome).setOutcome consumer r.eventKey second =
      insertedInbox consumer inbox r advanced (some second) := by
  cases outcome with
  | none => rfl
  | some first => exact setOutcome_setOutcome _ _ first second

/-- The statements of an effect, one after the other, do what the effect does in one go. -/
theorem applying_alone (s : ConsumerDb α) (r : Request) (advanced : Bool) (rest : Effect α)
    (outcome : Option InboxOutcome) (written : α → α) {inbox : EventInbox} {app : α}
    (h : rest.run consumer r.eventKey (insertedInbox consumer s.inbox r advanced outcome) (written s.app) =
      .ok ((), inbox, app)) :
    ∃ outcome' written',
      (consumerProgram consumer ordering effect).Alone s (.applying r advanced outcome written rest)
        (.applying r advanced outcome' written' .done) ∧
      insertedInbox consumer s.inbox r advanced outcome' = inbox ∧ written' s.app = app := by
  induction rest generalizing outcome written with
  | done =>
    obtain ⟨hinbox, happ⟩ : _ = inbox ∧ _ = app := by simpa [Effect.run] using h
    exact ⟨outcome, written, .refl _, hinbox, happ⟩
  | fail error => cases h
  | query write rest ih =>
    obtain ⟨outcome', written', halone, hinbox, happ⟩ :=
      ih (written s.app) outcome (fun app => write (written s.app) (written app)) h
    exact ⟨outcome', written', .step rfl halone, hinbox, happ⟩
  | setOutcome second rest ih =>
    rw [Effect.run, setOutcome_insertedInbox] at h
    obtain ⟨outcome', written', halone, hinbox, happ⟩ := ih (some second) written h
    exact ⟨outcome', written', .step rfl halone, hinbox, happ⟩

/-- **A delivery alone is `consumeOnce`.** Where `consumeOnce` succeeds, the transaction run by itself
commits, and leaves the inbox and the data that `consumeOnce` computes. -/
theorem consumer_alone (s : ConsumerDb α) (r : Request) {result : InboxResult Unit} {inbox : EventInbox}
    {app : α}
    (h : consumeOnce consumer r.event ordering ((effect r.event).run consumer r.eventKey) s.inbox s.app =
      .ok (result, inbox, app)) :
    ∃ p, (consumerProgram consumer ordering effect).Alone s (.begun r) p ∧
      (consumerProgram consumer ordering effect).next p
        ((consumerProgram consumer ordering effect).writes p s) = .commit ∧
      ((consumerProgram consumer ordering effect).writes p s).inbox = inbox ∧
      ((consumerProgram consumer ordering effect).writes p s).app = app := by
  cases hversion : ordering.missesVersion r.event with
  | true => simp [consumeOnce, hversion] at h
  | false =>
  cases hreg : s.inbox.registered consumer r.eventKey with
  | true =>
    rw [consumeOnce_duplicate hversion hreg] at h
    obtain ⟨-, hinbox, happ⟩ : _ ∧ s.inbox = inbox ∧ s.app = app := by simpa using h
    refine ⟨.duplicate r, @Program.Alone.step _ _ _ _ _ _ _ (.duplicate r) _ ?_ (.refl _), rfl, hinbox, happ⟩
    simp [consumerProgram, hversion, hreg]
  | false =>
  have hbegin : (consumerProgram consumer ordering effect).next (.begun r)
      ((consumerProgram consumer ordering effect).writes (.begun r) s) = .goto (.registered r) := by
    simp [consumerProgram, hversion, hreg]
  -- the effect runs to its end, from the point where the order let it begin
  have happly : ∀ advanced : Bool,
      (consumerProgram consumer ordering effect).Alone s (.begun r)
        (.applying r advanced none id (effect r.event)) →
      (effect r.event).run consumer r.eventKey (insertedInbox consumer s.inbox r advanced none) s.app =
        .ok ((), inbox, app) →
      ∃ p, (consumerProgram consumer ordering effect).Alone s (.begun r) p ∧
        (consumerProgram consumer ordering effect).next p
          ((consumerProgram consumer ordering effect).writes p s) = .commit ∧
        ((consumerProgram consumer ordering effect).writes p s).inbox = inbox ∧
        ((consumerProgram consumer ordering effect).writes p s).app = app := by
    intro advanced hfirst hrun
    obtain ⟨outcome, written, halone, hinbox, happ⟩ :=
      applying_alone s r advanced (effect r.event) none id hrun
    exact ⟨_, hfirst.trans halone, rfl, hinbox, happ⟩
  have hrun : ∀ inserted : EventInbox,
      (do
        let x ← (effect r.event).run consumer r.eventKey inserted s.app
        return (InboxResult.applied x.1, x.2.1, x.2.2)) = Except.ok (result, inbox, app) →
      (effect r.event).run consumer r.eventKey inserted s.app = .ok ((), inbox, app) := by
    intro inserted hok
    obtain ⟨⟨value, inbox'', app'⟩, heffect, hret⟩ := bind_eq_ok.mp hok
    obtain ⟨-, rfl, rfl⟩ : _ ∧ inbox'' = inbox ∧ app' = app := by simpa using pure_eq_ok.mp hret
    exact heffect
  cases ordering with
  | everyEvent =>
    rw [consumeOnce_everyEvent hreg] at h
    exact happly false (.step hbegin (.step rfl (.refl _))) (hrun _ h)
  | latestState =>
    have haggregate : r.event.aggregate = some r.envelope.aggregate := rfl
    have hnew : s.inbox.registered consumer r.event.eventKey = false := hreg
    simp only [consumeOnce, hversion, hnew, haggregate, Bool.false_eq_true, if_false] at h
    cases hadvance : (s.inbox.register consumer r.event).advance consumer r.envelope.aggregate with
    | some advanced =>
      rw [hadvance] at h
      have hinserted : insertedInbox consumer s.inbox r true none = advanced := by
        simp [insertedInbox, hadvance]
      refine happly true (.step hbegin (.step ?_ (.refl _))) (hinserted.symm ▸ hrun advanced h)
      simp [consumerProgram, insertedInbox, hadvance]
    | none =>
      rw [hadvance] at h
      obtain ⟨-, hstale⟩ := Prod.mk.inj (Except.ok.inj h)
      obtain ⟨hinbox, happ⟩ := Prod.mk.inj hstale
      refine ⟨.stale r, .step hbegin (.step ?_ (.refl _)), rfl, hinbox, happ⟩
      simp [consumerProgram, insertedInbox, hadvance]

end Alone

/-! ## What a delivery registers -/

section Registered

variable {consumer : String} {inbox : EventInbox} {r : Request}

theorem EventInbox.registered_advance {a : EventAggregate} {inbox' : EventInbox}
    (h : inbox.advance consumer a = some inbox') (consumer' key : String) :
    inbox'.registered consumer' key = inbox.registered consumer' key := by
  unfold EventInbox.advance at h
  split at h
  · obtain rfl := Option.some.inj h
    rfl
  · split at h
    · obtain rfl := Option.some.inj h
      rfl
    · cases h

@[simp] theorem registered_insertedInbox (advanced : Bool) (outcome : Option InboxOutcome) (key : String) :
    (insertedInbox consumer inbox r advanced outcome).registered consumer key =
      (decide (r.eventKey = key) || inbox.registered consumer key) := by
  have hinserted : (inbox.register consumer r.event).registered consumer key =
      (decide (r.eventKey = key) || inbox.registered consumer key) := by
    rw [EventInbox.registered_register]
    simp [OutboxEnvelope.inboxEvent]
  have hordered : (if advanced then
      ((inbox.register consumer r.event).advance consumer r.envelope.aggregate).getD
        (inbox.register consumer r.event)
      else inbox.register consumer r.event).registered consumer key =
      (decide (r.eventKey = key) || inbox.registered consumer key) := by
    split
    · cases h : (inbox.register consumer r.event).advance consumer r.envelope.aggregate with
      | none => exact hinserted
      | some inbox' => exact (EventInbox.registered_advance h consumer key).trans hinserted
    · exact hinserted
  unfold insertedInbox
  cases outcome with
  | none => exact hordered
  | some outcome => exact (EventInbox.registered_setOutcome _ _ _ _ _ _).trans hordered

end Registered

/-! ## At most one effect -/

section AtMostOnce

variable {α : Type} {consumer : String} {ordering : InboxOrdering} {effect : InboxEvent → Effect α}
  {inbox₀ : EventInbox}

/-- The request whose key a delivery has inserted. -/
def ConsumerPoint.inserted : ConsumerPoint α → Option Request
  | .begun _ | .duplicate _ => none
  | .registered r | .stale r | .applying r _ _ _ _ => some r

theorem locks_of_inserted {p : ConsumerPoint α} {r : Request} (h : p.inserted = some r) :
    .key r.eventKey ∈ (consumerProgram consumer ordering effect).locks p := by
  cases p <;> cases h <;> exact List.mem_cons_self

variable (consumer ordering effect inbox₀) in
/-- What holds of a consumer that began with the inbox `inbox₀`, whatever is in progress. -/
structure ConsumerInv (S : Sessions (ConsumerDb α) (ConsumerPoint α)) : Prop where
  exclusive : (consumerProgram consumer ordering effect).Exclusive S
  once (key : String) : S.committed.effects.count key ≤ 1
  effectRegistered : ∀ key ∈ S.committed.effects, S.committed.inbox.registered consumer key = true
  servedRegistered : ∀ r ∈ S.committed.served, S.committed.inbox.registered consumer r.eventKey = true
  /-- In the order `every-event` a key is registered with its effect only. -/
  registeredEffect : ordering = .everyEvent → ∀ key, S.committed.inbox.registered consumer key = true →
    inbox₀.registered consumer key = true ∨ key ∈ S.committed.effects
  /-- A key that a delivery has inserted is not committed. -/
  fresh : ∀ x ∈ S.active, ∀ r, x.2.inserted = some r →
    S.committed.inbox.registered consumer r.eventKey = false
  /-- A key that a delivery found is. -/
  found : ∀ x ∈ S.active, ∀ r, x.2 = .duplicate r → S.committed.inbox.registered consumer r.eventKey = true
  ordered : ∀ x ∈ S.active, ∀ r, x.2 = .stale r → ordering = .latestState

/-- What a commit leaves. -/
theorem commit_cases {p : ConsumerPoint α} {s : ConsumerDb α}
    (h : (consumerProgram consumer ordering effect).next p s = .commit) :
    (∃ r, p = .duplicate r) ∨ (∃ r, p = .stale r) ∨
      ∃ r advanced outcome written, p = .applying r advanced outcome written .done := by
  rcases p with r | r | r | r | ⟨r, advanced, outcome, written, _ | _ | _ | _⟩
  · simp only [consumerProgram] at h
    split at h
    · cases h
    · split at h <;> cases h
  · exact .inl ⟨r, rfl⟩
  · simp only [consumerProgram] at h
    split at h
    · cases h
    · split at h <;> cases h
  · exact .inr (.inl ⟨r, rfl⟩)
  · exact .inr (.inr ⟨r, advanced, outcome, written, rfl⟩)
  · cases h
  · cases h
  · cases h

/-- Where a statement leads, and on what ground. -/
theorem goto_cases {p p' : ConsumerPoint α} {s : ConsumerDb α}
    (h : (consumerProgram consumer ordering effect).next p s = .goto p') :
    (∃ r, p = .begun r ∧ p' = .duplicate r ∧ s.inbox.registered consumer r.eventKey = true) ∨
      (∃ r, p = .begun r ∧ p' = .registered r ∧ s.inbox.registered consumer r.eventKey = false) ∨
      (∃ r, p.inserted = some r ∧ p'.inserted = some r ∧ (p' = .stale r → ordering = .latestState)) := by
  rcases p with r | r | r | r | ⟨r, advanced, outcome, written, _ | _ | _ | _⟩
  · simp only [consumerProgram] at h
    split at h
    · cases h
    · split at h <;> cases h
      · exact .inl ⟨r, rfl, rfl, ‹_›⟩
      · exact .inr (.inl ⟨r, rfl, rfl, Bool.not_eq_true _ ▸ ‹_›⟩)
  · cases h
  · simp only [consumerProgram] at h
    split at h
    · cases h
      exact .inr (.inr ⟨r, rfl, rfl, nofun⟩)
    · split at h <;> cases h
      · exact .inr (.inr ⟨r, rfl, rfl, nofun⟩)
      · exact .inr (.inr ⟨r, rfl, rfl, fun _ => rfl⟩)
  · cases h
  · cases h
  · cases h
  · cases h
    exact .inr (.inr ⟨r, rfl, rfl, nofun⟩)
  · cases h
    exact .inr (.inr ⟨r, rfl, rfl, nofun⟩)

namespace ConsumerInv

variable {S S' : Sessions (ConsumerDb α) (ConsumerPoint α)}

/-- A delivery that joins, or goes on, at a point where the facts hold. -/
private theorem join (h : ConsumerInv consumer ordering effect inbox₀ S) {t : Nat} {p : ConsumerPoint α}
    (hfree : ∀ k ∈ (consumerProgram consumer ordering effect).locks p, ∀ x ∈ S.others t,
      k ∉ (consumerProgram consumer ordering effect).locks x.2)
    (hfresh : ∀ r, p.inserted = some r → S.committed.inbox.registered consumer r.eventKey = false)
    (hfound : ∀ r, p = .duplicate r → S.committed.inbox.registered consumer r.eventKey = true)
    (hordered : ∀ r, p = .stale r → ordering = .latestState) :
    ConsumerInv consumer ordering effect inbox₀ { S with active := (t, p) :: S.others t } where
  exclusive := h.exclusive.join hfree
  once := h.once
  effectRegistered := h.effectRegistered
  servedRegistered := h.servedRegistered
  registeredEffect := h.registeredEffect
  fresh x hx := by
    rcases List.mem_cons.mp hx with rfl | hx
    · exact hfresh
    · exact h.fresh x (Sessions.mem_others.mp hx).1
  found x hx := by
    rcases List.mem_cons.mp hx with rfl | hx
    · exact hfound
    · exact h.found x (Sessions.mem_others.mp hx).1
  ordered x hx := by
    rcases List.mem_cons.mp hx with rfl | hx
    · exact hordered
    · exact h.ordered x (Sessions.mem_others.mp hx).1

/-- A delivery that ends without a commit. -/
private theorem leave (h : ConsumerInv consumer ordering effect inbox₀ S) (t : Nat) :
    ConsumerInv consumer ordering effect inbox₀ { S with active := S.others t } where
  exclusive := h.exclusive.others t _
  once := h.once
  effectRegistered := h.effectRegistered
  servedRegistered := h.servedRegistered
  registeredEffect := h.registeredEffect
  fresh x hx := h.fresh x (Sessions.mem_others.mp hx).1
  found x hx := h.found x (Sessions.mem_others.mp hx).1
  ordered x hx := h.ordered x (Sessions.mem_others.mp hx).1

/-- The key of one delivery is not that of another. -/
private theorem key_ne (h : ConsumerInv consumer ordering effect inbox₀ S) {t : Nat} {p : ConsumerPoint α}
    {r r' : Request} (hp : (t, p) ∈ S.active) (hr : p.inserted = some r) {x : Nat × ConsumerPoint α}
    (hx : x ∈ S.others t) (hr' : x.2.inserted = some r') : r.eventKey ≠ r'.eventKey := by
  intro hkey
  obtain ⟨hmem, hne⟩ := Sessions.mem_others.mp hx
  have hheld : .key r.eventKey ∈ (consumerProgram consumer ordering effect).locks x.2 :=
    hkey ▸ locks_of_inserted hr'
  exact h.exclusive x hmem (t, p) hp hne _ hheld (locks_of_inserted hr)

/-- The commit of a delivery that inserted its key, with or without the effect. -/
private theorem insert (h : ConsumerInv consumer ordering effect inbox₀ S) {t : Nat} {p : ConsumerPoint α}
    {r : Request} (hp : (t, p) ∈ S.active) (hr : p.inserted = some r) {s : ConsumerDb α}
    (hregistered : ∀ key, s.inbox.registered consumer key =
      (decide (r.eventKey = key) || S.committed.inbox.registered consumer key))
    (heffects : s.effects = S.committed.effects ∨ s.effects = r.eventKey :: S.committed.effects)
    (heveryEvent : ordering = .everyEvent → s.effects = r.eventKey :: S.committed.effects)
    (hserved : s.served = r :: S.committed.served) :
    ConsumerInv consumer ordering effect inbox₀ ⟨s, S.others t⟩ := by
  have hnew := h.fresh _ hp r hr
  have hmono : ∀ key, S.committed.inbox.registered consumer key = true →
      s.inbox.registered consumer key = true := fun key hkey => by simp [hregistered, hkey]
  have hself : s.inbox.registered consumer r.eventKey = true := by simp [hregistered]
  have hnone : r.eventKey ∉ S.committed.effects := by
    intro hmem
    rw [h.effectRegistered _ hmem] at hnew
    cases hnew
  refine ⟨h.exclusive.others t _, fun key => ?_, fun key hkey => ?_, fun r' hr' => ?_,
    fun hord key hkey => ?_, fun x hx r' hr' => ?_, fun x hx r' hr' => ?_, fun x hx => ?_⟩
  · rcases heffects with heq | heq <;> rw [heq]
    · exact h.once key
    · rw [List.count_cons]
      by_cases hkey : r.eventKey = key
      · subst hkey
        simp [List.count_eq_zero.mpr hnone]
      · simpa [hkey] using h.once key
  · rcases heffects with heq | heq <;> rw [heq] at hkey
    · exact hmono key (h.effectRegistered key hkey)
    · rcases List.mem_cons.mp hkey with rfl | hkey
      · exact hself
      · exact hmono key (h.effectRegistered key hkey)
  · rw [hserved] at hr'
    rcases List.mem_cons.mp hr' with rfl | hr'
    · exact hself
    · exact hmono _ (h.servedRegistered r' hr')
  · rw [heveryEvent hord]
    rw [hregistered, Bool.or_eq_true, decide_eq_true_eq] at hkey
    rcases hkey with rfl | hkey
    · exact .inr List.mem_cons_self
    · exact (h.registeredEffect hord key hkey).imp_right (List.mem_cons_of_mem _)
  · rw [hregistered, h.fresh x (Sessions.mem_others.mp hx).1 r' hr', Bool.or_false]
    exact decide_eq_false (h.key_ne hp hr hx hr')
  · exact hmono _ (h.found x (Sessions.mem_others.mp hx).1 r' hr')
  · exact h.ordered x (Sessions.mem_others.mp hx).1

/-- **One step of the deliveries**, whatever their interleaving and their failures. -/
theorem step (h : ConsumerInv consumer ordering effect inbox₀ S) {a : Act Request}
    (hstep : (consumerProgram consumer ordering effect).step S a = some S') :
    ConsumerInv consumer ordering effect inbox₀ S' := by
  cases Program.step_cases hstep with
  | started => exact h.join nofun nofun nofun nofun
  | @moved t p p' hfind hnext hfree =>
    have hp := S.mem_of_find? hfind
    rcases goto_cases hnext with ⟨r, rfl, rfl, hreg⟩ | ⟨r, rfl, rfl, hreg⟩ | ⟨r, hr, hr', hstale⟩
    · exact h.join hfree nofun (fun r' heq => by cases heq; exact hreg) nofun
    · exact h.join hfree (fun r' heq => by cases heq; exact hreg) nofun nofun
    · refine h.join hfree (fun r'' heq => ?_) (fun r'' heq => ?_) fun r'' heq => ?_
      · rw [hr'] at heq
        cases heq
        exact h.fresh _ hp r hr
      · rw [heq] at hr'
        cases hr'
      · rw [heq] at hr'
        cases hr'
        exact hstale heq
  | @committed t p hfind hnext =>
    have hp := S.mem_of_find? hfind
    rcases commit_cases hnext with ⟨r, rfl⟩ | ⟨r, rfl⟩ | ⟨r, advanced, outcome, written, rfl⟩
    · refine ⟨h.exclusive.others t _, h.once, h.effectRegistered, fun r' hr' => ?_, h.registeredEffect,
        fun x hx => h.fresh x (Sessions.mem_others.mp hx).1,
        fun x hx => h.found x (Sessions.mem_others.mp hx).1,
        fun x hx => h.ordered x (Sessions.mem_others.mp hx).1⟩
      rcases List.mem_cons.mp hr' with rfl | hr'
      · exact h.found _ hp _ rfl
      · exact h.servedRegistered r' hr'
    · have hlatest := h.ordered _ hp r rfl
      refine h.insert hp rfl (registered_insertedInbox false _) (.inl rfl) (fun hord => ?_) rfl
      rw [hlatest] at hord
      cases hord
    · exact h.insert hp rfl (registered_insertedInbox advanced outcome) (.inr rfl) (fun _ => rfl) rfl
  | rolledBack => exact h.leave _
  | failed => exact h.leave _

end ConsumerInv

/-- The request a delivery serves. -/
def ConsumerPoint.request : ConsumerPoint α → Request
  | .begun r | .duplicate r | .registered r | .stale r | .applying r _ _ _ _ => r

theorem request_of_inserted {p : ConsumerPoint α} {r : Request} (h : p.inserted = some r) : p.request = r := by
  cases p <;> cases h <;> rfl

/-- Only requests that were `sent` are in progress or served. -/
def ServesOnly (sent : Request → Prop) (S : Sessions (ConsumerDb α) (ConsumerPoint α)) : Prop :=
  (∀ x ∈ S.active, sent x.2.request) ∧ ∀ r ∈ S.committed.served, sent r

theorem ServesOnly.step {sent : Request → Prop} {S S' : Sessions (ConsumerDb α) (ConsumerPoint α)}
    {a : Act Request} (h : ServesOnly sent S) (hstart : ∀ t r, a = .start t r → sent r)
    (hstep : (consumerProgram consumer ordering effect).step S a = some S') : ServesOnly sent S' := by
  have hothers : ∀ t, ∀ x ∈ S.others t, sent x.2.request := fun t x hx =>
    h.1 x (Sessions.mem_others.mp hx).1
  cases Program.step_cases hstep with
  | started => exact ⟨List.forall_mem_cons.mpr ⟨hstart _ _ rfl, hothers _⟩, h.2⟩
  | @moved t p p' hfind hnext =>
    have hp := h.1 _ (S.mem_of_find? hfind)
    have hsame : p'.request = p.request := by
      rcases goto_cases hnext with ⟨r, rfl, rfl, -⟩ | ⟨r, rfl, rfl, -⟩ | ⟨r, hr, hr', -⟩
      · rfl
      · rfl
      · rw [request_of_inserted hr, request_of_inserted hr']
    exact ⟨List.forall_mem_cons.mpr ⟨hsame ▸ hp, hothers _⟩, h.2⟩
  | @committed t p hfind hnext =>
    have hp := h.1 _ (S.mem_of_find? hfind)
    refine ⟨hothers _, ?_⟩
    rcases commit_cases hnext with ⟨r, rfl⟩ | ⟨r, rfl⟩ | ⟨r, advanced, outcome, written, rfl⟩ <;>
      exact List.forall_mem_cons.mpr ⟨hp, h.2⟩
  | rolledBack => exact ⟨hothers _, h.2⟩
  | failed => exact ⟨hothers _, h.2⟩

/-- What was served stays served. -/
theorem served_step {S S' : Sessions (ConsumerDb α) (ConsumerPoint α)} {a : Act Request}
    (hstep : (consumerProgram consumer ordering effect).step S a = some S') {r : Request}
    (hr : r ∈ S.committed.served) : r ∈ S'.committed.served := by
  cases Program.step_cases hstep with
  | @committed t p hfind hnext =>
    rcases commit_cases hnext with ⟨r, rfl⟩ | ⟨r, rfl⟩ | ⟨r, advanced, outcome, written, rfl⟩ <;>
      exact List.mem_cons_of_mem _ hr
  | _ => exact hr

/-- A consumer before its first delivery. -/
theorem consumerInv_init {s : ConsumerDb α} (hinbox : s.inbox = inbox₀) (heffects : s.effects = [])
    (hserved : s.served = []) : ConsumerInv consumer ordering effect inbox₀ ⟨s, []⟩ where
  exclusive := fun _ h => absurd h List.not_mem_nil
  once key := by simp [heffects]
  effectRegistered := by simp [heffects]
  servedRegistered := by simp [hserved]
  registeredEffect _ key hkey := .inl (hinbox ▸ hkey)
  fresh _ h := absurd h List.not_mem_nil
  found _ h := absurd h List.not_mem_nil
  ordered _ h := absurd h List.not_mem_nil

end AtMostOnce

end AtlasErp
