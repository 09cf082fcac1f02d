import AtlasErp.Outbox.StaleWorkers

/-! # Events that are buried

A reservation uses up an attempt, and an event that was reserved too often is buried without being sent: the workers
may all have died before they reached it.

- `buriedSent_of_reachable`: as long as no worker claims an event that has used up its attempts and was never sent,
  what is buried was sent;
- `buriedSent_counterexample`: a worker that dies before it sends, as often as an event may be tried. -/

namespace AtlasErp

open Lib

section Sent

variable {α : Type} (relays : Nat → OutboxRelay)

/-- History: the events for which a publish call was made since they were created or last replayed. -/
def noteSent (W : OutboxWorld α) (sent : List Nat) : OutboxAct → List Nat
  | .deliver w =>
    match W.processes w with
    | ⟨_, event :: _, .ready⟩ => if agotado (relays w) event then sent else event.id :: sent
    | _ => sent
  | .replay eventKey =>
    match replayedRow W.outbox eventKey with
    | some row => sent.filter (· ≠ row.id)
    | none => sent
  | _ => sent

/-- No worker claims an event that has used up its attempts and was never sent. -/
def ClaimsSent (s : OutboxWorld α × List Nat) : OutboxAct → Prop
  | .claim w locked => ∀ row ∈ candidatos (relays w) s.1.now s.1.outbox locked,
      (relays w).config.maxAttempts ≤ row.attempts → row.id ∈ s.2
  | _ => True

instance (s : OutboxWorld α × List Nat) : DecidablePred (ClaimsSent relays s) := fun a => by
  unfold ClaimsSent
  cases a <;> exact inferInstance

variable {relays} {consumer : String} {ordering : InboxOrdering} {effect : InboxEvent → Effect α}
  {inbox₀ : EventInbox} {W W' : OutboxWorld α} {sent : List Nat} {a : OutboxAct}

/-- Only the replay of an event forgets that it was sent. -/
theorem mem_noteSent {id : Nat} (h : id ∈ sent)
    (hreplay : ∀ eventKey found, a = .replay eventKey → replayedRow W.outbox eventKey = some found → found.id ≠ id) :
    id ∈ noteSent relays W sent a := by
  cases a with
  | deliver w =>
    simp only [noteSent]
    split
    · split
      · exact h
      · exact List.mem_cons_of_mem _ h
    · exact h
  | replay eventKey =>
    simp only [noteSent]
    split
    · rename_i found hfound
      exact List.mem_filter.mpr ⟨h, decide_eq_true fun hid => hreplay eventKey found rfl hfound hid.symm⟩
    · exact h
  | _ => exact h

variable (relays) in
/-- What a worker that owns an event relies on. -/
structure OwnerSent (W : OutboxWorld α) (sent : List Nat) (w : Nat) : Prop where
  /-- The event that it is sending, or that it has an answer for. -/
  calling : ∀ event rest, (W.processes w).batch = event :: rest → (W.processes w).stage ≠ .ready →
    Owned W.outbox (relays w).workerId event.id → event.id ∈ sent
  /-- An event that it will not send. -/
  exhausted : ∀ event ∈ (W.processes w).batch, agotado (relays w) event = true →
    Owned W.outbox (relays w).workerId event.id → event.id ∈ sent

variable (relays) in
/-- **What is buried was sent.** -/
structure SentInv (W : OutboxWorld α) (sent : List Nat) : Prop where
  fresh : FreshRows W
  buried : ∀ id, HasStatus W.outbox .dead id → id ∈ sent
  owners : ∀ w, OwnerSent relays W sent w

theorem SentInv.of_init (h : OutboxWorld.Initial inbox₀ W) (hburied : ∀ id, HasStatus W.outbox .dead id → id ∈ sent) :
    SentInv relays W sent where
  fresh := by
    intro x hx
    rw [h.producers] at hx
    cases hx
  buried := hburied
  owners w := by
    obtain ⟨hbatch, -, -⟩ := h.processes w
    refine ⟨fun event rest hcons => ?_, fun event hevent => ?_⟩
    · rw [hbatch] at hcons
      cases hcons
    · rw [hbatch] at hevent
      cases hevent

/-- A worker that kept an event owned it before, and the event was not replayed. -/
theorem owned_before (hids : Function.Injective fun w => (relays w).workerId) (hfresh : FreshRows W)
    (hstep : W.step relays consumer ordering effect a = some W') {w id : Nat} (hclaim : ∀ locked, a ≠ .claim w locked)
    (h : Owned W'.outbox (relays w).workerId id) :
    Owned W.outbox (relays w).workerId id ∧
      ∀ eventKey found, a = .replay eventKey → replayedRow W.outbox eventKey = some found → found.id ≠ id := by
  rcases owned_step hids hfresh hstep h with ⟨locked, rfl, -⟩ | ⟨hbefore, hnotTaken⟩
  · exact absurd rfl (hclaim locked)
  · refine ⟨hbefore, ?_⟩
    rintro eventKey found rfl hfound hid
    exact hnotTaken ⟨found, hfound, hid⟩

/-- An event that is claimed for the last time was sent before. -/
theorem claimed_exhausted {w : Nat} {locked : List Nat} (hok : ClaimsSent relays (W, sent) (.claim w locked))
    {event : ClaimedEvent} (hevent : event ∈ (claimBatch (relays w) W.now W.outbox locked).1)
    (hexhausted : agotado (relays w) event = true) : event.id ∈ sent := by
  obtain ⟨row, hrow, rfl⟩ := List.mem_map.mp ((List.mem_insertionSort _).mp hevent)
  obtain ⟨-, htaken⟩ := Table.mem_rowsWhere.mp hrow
  refine hok row (of_decide_eq_true htaken) ?_
  have hattempts : (relays w).config.maxAttempts < row.attempts + 1 := of_decide_eq_true hexhausted
  omega

/-- **One step.** -/
theorem SentInv.step (hids : Function.Injective fun w => (relays w).workerId) (h : SentInv relays W sent)
    (hok : ClaimsSent relays (W, sent) a) (hstep : W.step relays consumer ordering effect a = some W') :
    SentInv relays W' (noteSent relays W sent a) where
  fresh := h.fresh.step hstep
  buried id hdead := by
    rcases hasStatus_step h.fresh hstep (.inl rfl) hdead with ⟨hbefore, hnotReplayed⟩ |
      ⟨-, w, seen, event, rest, stage, hprocess, rfl, howned, hwhy⟩
    · exact mem_noteSent (h.buried id hbefore) hnotReplayed
    · -- whoever buries it has sent it, or knows that it was sent
      have hbatch : (W.processes w).batch = event :: rest := by rw [hprocess]
      rcases hwhy with ⟨rfl, hstage⟩ | ⟨rfl, hexhausted⟩
      · refine mem_noteSent ((h.owners w).calling event rest hbatch ?_ howned) fun _ _ heq => by cases heq
        rw [hprocess]
        exact hstage
      · refine mem_noteSent ((h.owners w).exhausted event ?_ hexhausted howned) fun _ _ heq => by cases heq
        rw [hbatch]
        exact List.mem_cons_self
  owners w := by
    have hprocess := process_step hstep w
    generalize hafter : W'.processes w = process at hprocess
    cases hprocess with
    | unchanged hclaim =>
      refine ⟨fun event rest hcons hstage howned => ?_, fun event hevent hexhausted howned => ?_⟩
      · rw [hafter] at hcons hstage
        obtain ⟨hbefore, hnotReplayed⟩ := owned_before hids h.fresh hstep hclaim howned
        exact mem_noteSent ((h.owners w).calling event rest hcons hstage hbefore) hnotReplayed
      · rw [hafter] at hevent
        obtain ⟨hbefore, hnotReplayed⟩ := owned_before hids h.fresh hstep hclaim howned
        exact mem_noteSent ((h.owners w).exhausted event hevent hexhausted hbefore) hnotReplayed
    | dropped hclaim hbatch hready =>
      refine ⟨fun event rest _ hstage => ?_, fun event hevent hexhausted howned => ?_⟩
      · rw [hafter] at hstage
        exact absurd hready hstage
      · rw [hafter] at hevent
        obtain ⟨hbefore, hnotReplayed⟩ := owned_before hids h.fresh hstep hclaim howned
        exact mem_noteSent ((h.owners w).exhausted event (hbatch event hevent) hexhausted hbefore) hnotReplayed
    | claimed =>
      refine ⟨fun event rest _ hstage => ?_, fun event hevent hexhausted _ => ?_⟩
      · rw [hafter] at hstage
        exact absurd rfl hstage
      · rw [hafter] at hevent
        exact claimed_exhausted hok hevent hexhausted
    | @sent seen event rest r hprocess hallowed =>
      have hnote : noteSent relays W sent (.deliver w) = event.id :: sent := by
        simp only [noteSent, hprocess, hallowed, Bool.false_eq_true, if_false]
      rw [hnote]
      refine ⟨fun event' rest' hcons _ _ => ?_, fun event' hevent hexhausted howned => ?_⟩
      · rw [hafter] at hcons
        cases hcons
        exact List.mem_cons_self
      · rw [hafter] at hevent
        obtain ⟨hbefore, -⟩ := owned_before hids h.fresh hstep (fun _ heq => by cases heq) howned
        refine List.mem_cons_of_mem _ ((h.owners w).exhausted event' ?_ hexhausted hbefore)
        rw [hprocess]
        exact hevent
    | @answered seen batch r answer result hprocess =>
      refine ⟨fun event rest hcons _ howned => ?_, fun event hevent hexhausted howned => ?_⟩
      · rw [hafter] at hcons
        obtain ⟨hbefore, -⟩ := owned_before hids h.fresh hstep (fun _ heq => by cases heq) howned
        refine (h.owners w).calling event rest ?_ ?_ hbefore
        · rw [hprocess]
          exact hcons
        · rw [hprocess]
          exact fun heq => by cases heq
      · rw [hafter] at hevent
        obtain ⟨hbefore, -⟩ := owned_before hids h.fresh hstep (fun _ heq => by cases heq) howned
        refine (h.owners w).exhausted event ?_ hexhausted hbefore
        rw [hprocess]
        exact hevent

end Sent

/-! ## The run -/

section Run

variable {α : Type} (relays : Nat → OutboxRelay) (consumer : String) (ordering : InboxOrdering)
  (effect : InboxEvent → Effect α) (inbox₀ : EventInbox)

/-- The system, with the events that were sent; those that are dead at the start were. -/
abbrev sentMachine : Machine (OutboxWorld α × List Nat) OutboxAct :=
  (outboxMachine relays consumer ordering effect inbox₀).observed
    (fun W sent => ∀ id, HasStatus W.outbox .dead id → id ∈ sent) (noteSent relays)

variable {relays consumer ordering effect inbox₀}

/-- **No event is buried unsent**, in every run of workers with distinct names that crash, lose the database and outlive
their leases, and of operators that replay, as long as no worker claims an event that has used up its attempts without
a publish call since it was created or last replayed. -/
theorem buriedSent_of_reachable (hids : Function.Injective fun w => (relays w).workerId)
    {s : OutboxWorld α × List Nat}
    (h : (sentMachine relays consumer ordering effect inbox₀).Reachable (ClaimsSent relays) s) :
    ∀ row ∈ s.1.outbox, row.status = .dead → row.id ∈ s.2 := by
  have hinv : SentInv relays s.1 s.2 := by
    refine Machine.invariant (M := sentMachine relays consumer ordering effect inbox₀)
      (P := fun s => SentInv relays s.1 s.2) (fun s hinit => .of_init hinit.1 hinit.2) ?_ h
    intro s a s' hok hobserved hinv
    obtain ⟨hstep, hnote⟩ := Machine.observed_step.mp hobserved
    rw [hnote]
    exact hinv.step hids hok hstep
  exact fun row hrow hdead => hinv.buried row.id ⟨row, hrow, rfl, hdead⟩

/-- The machine of the named workers. -/
abbrev buryingMachine : Machine (OutboxWorld Nat × List Nat) OutboxAct :=
  sentMachine namedRelays "core" .everyEvent countEffect ⟨[], []⟩

theorem buryingMachine_init : buryingMachine.init (quietWorld, []) :=
  ⟨quietWorld_initial, fun _ ⟨row, hrow, _⟩ => absurd hrow (Table.not_mem_empty row)⟩

/-- Worker 0 dies twelve times between its claim and its publish call; worker 1 finds the event reserved too often. -/
def diedUnsent : List OutboxAct :=
  [.insert 0 registeredEvent, .commit 0] ++
    (List.replicate 12 [OutboxAct.claim 0 [], .crash 0, .tick 60001]).flatten ++ [.claim 1 [], .deliver 1]

/-- The event is buried, and no publish call was ever made. -/
theorem buriedSent_counterexample :
    buryingMachine.Reachable (fun _ _ => True) (buryingMachine.after (quietWorld, []) diedUnsent) ∧
      (buryingMachine.after (quietWorld, []) diedUnsent).1.outbox.rows.map (·.status) = [.dead] ∧
      (buryingMachine.after (quietWorld, []) diedUnsent).1.requests = [] ∧
      (buryingMachine.after (quietWorld, []) diedUnsent).2 = [] :=
  ⟨buryingMachine.reachable_after buryingMachine_init _, by decide +kernel, by decide +kernel, by decide +kernel⟩

/-- Worker 0 sends, and the receiver rejects the event. -/
def sentAndRejected : List OutboxAct :=
  [.insert 0 registeredEvent, .commit 0, .claim 0 [], .deliver 0, .answer 0 (.response 400), .mark 0]

/-- The event is buried after the publish call. -/
theorem buriedSent_of_reachable_rejected :
    (buryingMachine.afterIf (ClaimsSent namedRelays) (quietWorld, []) sentAndRejected).1.outbox.rows.map (·.status) =
        [.dead] ∧
      ∀ row ∈ (buryingMachine.afterIf (ClaimsSent namedRelays) (quietWorld, []) sentAndRejected).1.outbox,
        row.status = .dead →
          row.id ∈ (buryingMachine.afterIf (ClaimsSent namedRelays) (quietWorld, []) sentAndRejected).2 :=
  ⟨by decide, buriedSent_of_reachable namedRelays_injective
    (buryingMachine.reachable_afterIf (ClaimsSent namedRelays) buryingMachine_init _)⟩

end Run

end AtlasErp
