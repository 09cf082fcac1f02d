import AtlasErp.Outbox.Leases

/-! # Workers that are overtaken

A worker that outlived its lease answers after another one claimed, published or buried the event.

- `overtaken_step`: who was overtaken owns nothing of what was taken;
- `staleWorkers`: its failure changes nothing, a published event stays as it is, and an acknowledgement ends with the
  event published. -/

namespace AtlasErp

open Lib

section Overtaken

variable {α : Type} (relays : Nat → OutboxRelay)

/-- The events that a worker claims, publishes or buries in a step. -/
def takenIds (W : OutboxWorld α) : OutboxAct → List Nat
  | .claim w locked => claimedIds (relays w) W.now W.outbox locked
  | .deliver w =>
    match W.processes w with
    | ⟨_, event :: _, .ready⟩ =>
      if agotado (relays w) event = true ∧ (markAgotado (relays w) W.now W.outbox event).1 = .dead then [event.id]
      else []
    | _ => []
  | .mark w =>
    match W.processes w with
    | ⟨_, event :: _, .answered result⟩ =>
      let outcome := (mark (relays w) W.now W.outbox event result).1
      if outcome = .published ∨ outcome = .dead then [event.id] else []
    | _ => []
  | _ => []

/-- History: the events that another worker claimed, published or buried since a worker's last claim. -/
def noteOvertaken (W : OutboxWorld α) (overtaken : Nat → List Nat) (a : OutboxAct) (w : Nat) : List Nat :=
  match a with
  | .claim w' _ => if w' = w then [] else takenIds relays W a ++ overtaken w
  | .deliver w' | .mark w' => if w' = w then overtaken w else takenIds relays W a ++ overtaken w
  | _ => overtaken w

/-- Worker `w` records a failure of `event`: an answer that is no acknowledgement, or an event that it does not send
again. -/
def RecordsFailure (W : OutboxWorld α) (w : Nat) (event : ClaimedEvent) (a : OutboxAct) : Prop :=
  (a = .mark w ∧ ∃ seen rest result, W.processes w = ⟨seen, event :: rest, .answered result⟩ ∧
    ∀ httpStatus, result ≠ .ack httpStatus) ∨
  (a = .deliver w ∧ ∃ seen rest, W.processes w = ⟨seen, event :: rest, .ready⟩ ∧ agotado (relays w) event = true)

variable {relays} {consumer : String} {ordering : InboxOrdering} {effect : InboxEvent → Effect α}
  {inbox₀ : EventInbox} {W W' : OutboxWorld α} {overtaken : Nat → List Nat} {a : OutboxAct}

theorem takes_of_mem_takenIds {id : Nat} (h : id ∈ takenIds relays W a) : Takes relays W id a := by
  cases a with
  | claim w locked => exact h
  | deliver w =>
    simp only [takenIds] at h
    split at h
    · rename_i seen event rest hprocess
      split at h
      · rename_i hdead
        refine ⟨seen, event, rest, hprocess, hdead.1, List.mem_singleton.mp h, ?_⟩
        rw [hdead.2]
        decide
      · cases h
    · cases h
  | mark w =>
    simp only [takenIds] at h
    split at h
    · rename_i seen event rest result hprocess
      split at h
      · rename_i houtcome
        refine ⟨seen, event, rest, result, hprocess, List.mem_singleton.mp h, ?_⟩
        rcases houtcome with houtcome | houtcome <;> rw [houtcome] <;> decide
      · cases h
    · cases h
  | _ => cases h

/-- What is noted for a worker was taken in this step or noted before, and it claims nothing in the step. -/
theorem mem_noteOvertaken {w id : Nat} (h : id ∈ noteOvertaken relays W overtaken a w) :
    (id ∈ overtaken w ∨ Takes relays W id a) ∧ ∀ locked, a ≠ .claim w locked := by
  have happend : ∀ {b : OutboxAct}, id ∈ takenIds relays W b ++ overtaken w → id ∈ overtaken w ∨ Takes relays W id b :=
    fun hmem => (List.mem_append.mp hmem).symm.imp_right takes_of_mem_takenIds
  cases a with
  | claim w' locked =>
    simp only [noteOvertaken] at h
    split at h
    · cases h
    · exact ⟨happend h, fun locked' heq => by cases heq; contradiction⟩
  | deliver w' =>
    simp only [noteOvertaken] at h
    split at h
    · exact ⟨.inl h, fun locked heq => by cases heq⟩
    · exact ⟨happend h, fun locked heq => by cases heq⟩
  | mark w' =>
    simp only [noteOvertaken] at h
    split at h
    · exact ⟨.inl h, fun locked heq => by cases heq⟩
    · exact ⟨happend h, fun locked heq => by cases heq⟩
  | _ => exact ⟨.inl h, fun locked heq => by cases heq⟩

/-- **Who was overtaken** owns nothing of what was taken, and a step keeps it so. -/
theorem overtaken_step (hids : Function.Injective fun w => (relays w).workerId) (hfresh : FreshRows W)
    (hstep : W.step relays consumer ordering effect a = some W')
    (h : ∀ w, ∀ id ∈ overtaken w, ¬Owned W.outbox (relays w).workerId id) :
    ∀ w, ∀ id ∈ noteOvertaken relays W overtaken a w, ¬Owned W'.outbox (relays w).workerId id := by
  intro w id hid howned
  obtain ⟨hwhy, hnoClaim⟩ := mem_noteOvertaken hid
  rcases owned_step hids hfresh hstep howned with ⟨locked, hclaim, -⟩ | ⟨hbefore, hnotTaken⟩
  · exact hnoClaim locked hclaim
  · rcases hwhy with hold | htaken
    · exact h w id hold hbefore
    · exact hnotTaken htaken

/-- The failure of a worker that does not own the event changes nothing. -/
theorem markFailed_eq_self {relay : OutboxRelay} {now : Instant} {outbox : Table OutboxRow} {event : ClaimedEvent}
    (definitive : Bool) (error : String) (httpStatus : Option Nat) (h : ¬Owned outbox relay.workerId event.id) :
    (markFailed relay now outbox event definitive error httpStatus).2 = outbox := by
  refine Table.updateWhere_eq_self (fun _ => rfl) fun row hrow hfails => absurd ?_ h
  obtain ⟨hid, hpending, howner⟩ := failable_iff.mp hfails
  exact ⟨row, hrow, hid, hpending, howner⟩

theorem recordsFailure_step {w : Nat} {event : ClaimedEvent} (hfailure : RecordsFailure relays W w event a)
    (hstep : W.step relays consumer ordering effect a = some W')
    (h : ¬Owned W.outbox (relays w).workerId event.id) : W'.outbox = W.outbox := by
  rcases hfailure with ⟨rfl, seen, rest, result, hprocess, hnoAck⟩ | ⟨rfl, seen, rest, hprocess, hexhausted⟩
  · cases OutboxWorld.step_cases hstep with
    | marked hprocess' =>
      rw [hprocess] at hprocess'
      cases hprocess'
      cases result with
      | ack httpStatus => exact absurd rfl (hnoAck httpStatus)
      | retry error httpStatus => exact markFailed_eq_self false error httpStatus h
      | rejected error httpStatus => exact markFailed_eq_self true error httpStatus h
  · cases OutboxWorld.step_cases hstep with
    | gaveUp hprocess' =>
      rw [hprocess] at hprocess'
      cases hprocess'
      exact markFailed_eq_self true _ none h
    | sent hprocess' hallowed =>
      rw [hprocess] at hprocess'
      cases hprocess'
      rw [hexhausted] at hallowed
      cases hallowed

end Overtaken

/-! ## Published events -/

section Published

variable {α : Type} {relays : Nat → OutboxRelay} {consumer : String} {ordering : InboxOrdering}
  {effect : InboxEvent → Effect α} {inbox₀ : EventInbox} {W W' : OutboxWorld α} {a : OutboxAct}

/-- A published event stays as it is. -/
theorem published_step (hinv : OutboxInv consumer ordering effect inbox₀ W)
    (hstep : W.step relays consumer ordering effect a = some W') {row : OutboxRow} (hrow : row ∈ W.outbox)
    (hpub : row.status = .published) : row ∈ W'.outbox := by
  cases OutboxWorld.step_cases hstep with
  | claimed => exact published_mem_claimBatch hrow hpub
  | gaveUp => exact published_mem_markFailed hrow hpub
  | marked => exact published_mem_mark hrow hpub
  | replayed => exact published_mem_replayEvent hinv.keys hrow hpub
  | committed happended => exact (Table.mem_append? happended).mpr (.inl hrow)
  | _ => exact hrow

theorem unleased_step (hfresh : FreshRows W) (hstep : W.step relays consumer ordering effect a = some W')
    (h : Unleased W.outbox) : Unleased W'.outbox := by
  cases OutboxWorld.step_cases hstep with
  | claimed => exact unleased_claimBatch h
  | gaveUp => exact unleased_markFailed h
  | marked => exact unleased_mark h
  | replayed => exact unleased_replayEvent h
  | committed happended =>
    intro row hrow hpub
    rcases (Table.mem_append? happended).mp hrow with hold | hnew
    · exact h row hold hpub
    · rw [(hfresh.uncommitted hnew).1] at hpub
      cases hpub
  | _ => exact h

/-- The events of a batch are not marked `LEGACY_LOG_ONLY`. -/
def Deliverable (W : OutboxWorld α) : Prop :=
  ∀ w, ∀ event ∈ (W.processes w).batch, ¬HasStatus W.outbox .legacyLogOnly event.id

theorem deliverable_step (hfresh : FreshRows W) (hstep : W.step relays consumer ordering effect a = some W')
    (h : Deliverable W) : Deliverable W' := by
  intro w event hevent hlegacy
  obtain ⟨hlegacy, -⟩ | ⟨hdead, -⟩ := hasStatus_step hfresh hstep (.inr rfl) hlegacy
  swap
  · cases hdead
  have hprocess := process_step hstep w
  generalize W'.processes w = process at hprocess hevent
  cases hprocess with
  | unchanged => exact h w event hevent hlegacy
  | dropped _ hbatch => exact h w event (hbatch event hevent) hlegacy
  | sent hprocess => exact h w event (by rw [hprocess]; exact hevent) hlegacy
  | answered hprocess => exact h w event (by rw [hprocess]; exact hevent) hlegacy
  | claimed =>
    -- what was claimed was pending
    obtain ⟨row, hrow, rfl, hpending, -⟩ := mem_claimBatch _ _ hevent
    obtain ⟨other, hother, hid, hstatus⟩ := hlegacy
    obtain rfl := Table.eq_of_key_eq hother hrow hid
    rw [hstatus] at hpending
    cases hpending

/-- What holds of every reachable state. -/
structure WorkersInv (W : OutboxWorld α) : Prop where
  outbox : OutboxInv consumer ordering effect inbox₀ W
  fresh : FreshRows W
  unleased : Unleased W.outbox
  deliverable : Deliverable W

theorem WorkersInv.of_init (h : OutboxWorld.Initial inbox₀ W) :
    @WorkersInv _ consumer ordering effect inbox₀ W where
  outbox := .of_init h
  fresh := by
    intro x hx
    rw [h.producers] at hx
    cases hx
  unleased row hrow hpub := absurd hpub (h.unpublished row hrow)
  deliverable w event hevent := by
    rw [(h.processes w).1] at hevent
    cases hevent

theorem WorkersInv.step (h : @WorkersInv _ consumer ordering effect inbox₀ W)
    (hstep : W.step relays consumer ordering effect a = some W') :
    @WorkersInv _ consumer ordering effect inbox₀ W' where
  outbox := h.outbox.step hstep
  fresh := h.fresh.step hstep
  unleased := unleased_step h.fresh hstep h.unleased
  deliverable := deliverable_step h.fresh hstep h.deliverable

/-- The event of an acknowledgement is published when the acknowledgement is marked; until then the worker holds it. -/
theorem acknowledged_step (h : @WorkersInv _ consumer ordering effect inbox₀ W)
    (hstep : W.step relays consumer ordering effect a = some W') {w : Nat} {seen : Table OutboxRow}
    {event : ClaimedEvent} {rest : List ClaimedEvent} {httpStatus : Option Nat} (hcrash : a ≠ .crash w)
    (hprocess : W.processes w = ⟨seen, event :: rest, .answered (.ack httpStatus)⟩) :
    W'.processes w = W.processes w ∨ HasStatus W'.outbox .published event.id := by
  have hother : ∀ {V : OutboxWorld α} {w' : Nat} {process : RelayProcess}, V.processes = W.processes →
      w ≠ w' → (V.withProcess w' process).processes w = W.processes w := by
    intro V w' process hsame hw
    simp [OutboxWorld.withProcess, hw, hsame]
  cases OutboxWorld.step_cases hstep with
  | @claimed w' locked hidle =>
    refine .inl (hother rfl fun hw => ?_)
    rw [← hw, hprocess] at hidle
    cases hidle
  | gaveUp hprocess' =>
    refine .inl (hother rfl fun hw => ?_)
    subst hw
    rw [hprocess] at hprocess'
    cases hprocess'
  | sent hprocess' =>
    refine .inl (hother rfl fun hw => ?_)
    subst hw
    rw [hprocess] at hprocess'
    cases hprocess'
  | answered hprocess' =>
    refine .inl (hother rfl fun hw => ?_)
    subst hw
    rw [hprocess] at hprocess'
    cases hprocess'
  | @crashed w' => exact .inl (hother rfl fun hw => hcrash (by rw [hw]))
  | @marked w' _ _ _ _ hprocess' =>
    by_cases hw : w = w'
    · subst hw
      rw [hprocess] at hprocess'
      cases hprocess'
      have hmem : event ∈ (W.processes w).batch := by
        rw [hprocess]
        exact List.mem_cons_self
      obtain ⟨row, hrow, hid, -⟩ := (h.outbox.processes w).rows event hmem
      exact .inr (hasStatus_markPublished hrow hid fun hlegacy => h.deliverable w event hmem ⟨row, hrow, hid, hlegacy⟩)
    · exact .inl (hother rfl hw)
  | _ => exact .inl rfl

/-- **A late acknowledgement**, over the rest of a run in which the worker does not die before it marks it. -/
theorem acknowledged_run (h : @WorkersInv _ consumer ordering effect inbox₀ W) {w : Nat} {seen : Table OutboxRow}
    {event : ClaimedEvent} {rest : List ClaimedEvent} {httpStatus : Option Nat}
    (hprocess : W.processes w = ⟨seen, event :: rest, .answered (.ack httpStatus)⟩) {as : List OutboxAct}
    (hrun : (outboxMachine relays consumer ordering effect inbox₀).Run (fun _ a => a ≠ .crash w) W as W') :
    W'.processes w = W.processes w ∨ HasStatus W'.outbox .published event.id := by
  refine (hrun.preserves (P := fun V => @WorkersInv _ consumer ordering effect inbox₀ V ∧
    (V.processes w = W.processes w ∨ HasStatus V.outbox .published event.id)) ?_ ⟨h, .inl rfl⟩).2
  rintro V b V' hcrash hstep ⟨hV, hstill | ⟨row, hrow, hid, hpub⟩⟩
  · refine ⟨hV.step hstep, ?_⟩
    exact (acknowledged_step hV hstep hcrash (hstill.trans hprocess)).imp_left fun hsame => hsame.trans hstill
  · exact ⟨hV.step hstep, .inr ⟨row, published_step hV.outbox hstep hrow hpub, hid, hpub⟩⟩

end Published

/-! ## The run -/

section Run

variable {α : Type} (relays : Nat → OutboxRelay) (consumer : String) (ordering : InboxOrdering)
  (effect : InboxEvent → Effect α) (inbox₀ : EventInbox)

/-- The system, with what each worker was overtaken on. -/
abbrev overtakenMachine : Machine (OutboxWorld α × (Nat → List Nat)) OutboxAct :=
  (outboxMachine relays consumer ordering effect inbox₀).observed (fun _ overtaken => ∀ w, overtaken w = [])
    (noteOvertaken relays)

variable {relays consumer ordering effect inbox₀} {W : OutboxWorld α} {overtaken : Nat → List Nat}

theorem workersInv_of_reachable (hids : Function.Injective fun w => (relays w).workerId)
    (h : (overtakenMachine relays consumer ordering effect inbox₀).Reachable (fun _ _ => True) (W, overtaken)) :
    @WorkersInv _ consumer ordering effect inbox₀ W ∧
      ∀ w, ∀ id ∈ overtaken w, ¬Owned W.outbox (relays w).workerId id := by
  refine Machine.invariant (M := overtakenMachine relays consumer ordering effect inbox₀)
    (P := fun s => @WorkersInv _ consumer ordering effect inbox₀ s.1 ∧
      ∀ w, ∀ id ∈ s.2 w, ¬Owned s.1.outbox (relays w).workerId id) ?_ ?_ h
  · rintro s ⟨hinit, hnone⟩
    refine ⟨.of_init hinit, fun w id hid => ?_⟩
    rw [hnone w] at hid
    cases hid
  · rintro s a s' - hobserved ⟨hinv, hovertaken⟩
    obtain ⟨hstep, hnote⟩ := Machine.observed_step.mp hobserved
    refine ⟨hinv.step hstep, ?_⟩
    rw [hnote]
    exact overtaken_step hids hinv.fresh hstep hovertaken

/-- **A stale worker undoes nothing.** Over every run of workers with distinct names, a failure that a worker records
after another one claimed, published or buried the event changes nothing; a published event has no lease and stays as
it is for ever; and an acknowledgement, however late, ends with the event published once the worker marks it. -/
theorem staleWorkers (hids : Function.Injective fun w => (relays w).workerId)
    (h : (overtakenMachine relays consumer ordering effect inbox₀).Reachable (fun _ _ => True) (W, overtaken)) :
    (∀ w event a W', RecordsFailure relays W w event a → event.id ∈ overtaken w →
      W.step relays consumer ordering effect a = some W' → W'.outbox = W.outbox) ∧
    (∀ row ∈ W.outbox, row.status = .published → row.leaseOwner = none ∧ row.leaseExpiresAt = none ∧
      ∀ as W', (outboxMachine relays consumer ordering effect inbox₀).Run (fun _ _ => True) W as W' →
        row ∈ W'.outbox) ∧
    (∀ w seen event rest httpStatus, W.processes w = ⟨seen, event :: rest, .answered (.ack httpStatus)⟩ →
      ∀ as W', (outboxMachine relays consumer ordering effect inbox₀).Run (fun _ a => a ≠ .crash w) W as W' →
        W'.processes w = W.processes w ∨ HasStatus W'.outbox .published event.id) := by
  obtain ⟨hinv, hovertaken⟩ := workersInv_of_reachable hids h
  refine ⟨?_, ?_, ?_⟩
  · intro w event a W' hfailure htaken hstep
    exact recordsFailure_step hfailure hstep (hovertaken w event.id htaken)
  · intro row hrow hpub
    obtain ⟨howner, hexpires⟩ := hinv.unleased row hrow hpub
    refine ⟨howner, hexpires, fun as W' hrun => ?_⟩
    refine (hrun.preserves (P := fun V => OutboxInv consumer ordering effect inbox₀ V ∧ row ∈ V.outbox) ?_
      ⟨hinv.outbox, hrow⟩).2
    rintro V a V' - hstep ⟨hV, hmem⟩
    exact ⟨hV.step hstep, published_step hV hstep hmem hpub⟩
  · intro w seen event rest httpStatus hprocess as W' hrun
    exact acknowledged_run hinv hprocess hrun

/-- Workers with the configuration of the environment's defaults, each with a name of its own. -/
def namedRelays (w : Nat) : OutboxRelay :=
  ⟨String.ofList ('w' :: List.replicate w '1'), ⟨25, 60000, 12, 5000, 3600000⟩, fun error => error⟩

theorem namedRelays_injective : Function.Injective fun w => (namedRelays w).workerId := by
  intro a b h
  have hlists := congrArg (fun name : String => name.toList.length) h
  simpa [namedRelays] using hlists

/-- The machine of these workers. -/
abbrev namedMachine : Machine (OutboxWorld Nat × (Nat → List Nat)) OutboxAct :=
  overtakenMachine namedRelays "core" .everyEvent countEffect ⟨[], []⟩

/-- Worker 0 outlives its lease, worker 1 claims the event, and then worker 0 hears of a timeout. -/
def lateFailure : List OutboxAct :=
  [.insert 0 registeredEvent, .commit 0, .claim 0 [], .deliver 0, .tick 60001, .claim 1 [],
    .answer 0 (.networkError "timeout")]

/-- The system then, and what worker 0 was overtaken on. -/
def lateState : OutboxWorld Nat × (Nat → List Nat) := namedMachine.after (quietWorld, fun _ => []) lateFailure

theorem lateState_failure : RecordsFailure namedRelays lateState.1 0
    { (registeredEvent.row 1 1 0).toClaimedEvent with attempts := 1 } (.mark 0) := by
  have hbatch : (lateState.1.processes 0).batch = [{ (registeredEvent.row 1 1 0).toClaimedEvent with attempts := 1 }] := by
    decide
  have hstage : (lateState.1.processes 0).stage = .answered (.retry "timeout" none) := by decide
  refine .inl ⟨rfl, (lateState.1.processes 0).seen, [], .retry "timeout" none, ?_, nofun⟩
  rw [← hbatch, ← hstage]

/-- The timeout is not recorded. -/
theorem staleWorkers_late : lateState.2 0 = [1] ∧ ∀ W',
    lateState.1.step namedRelays "core" .everyEvent countEffect (.mark 0) = some W' →
      W'.outbox = lateState.1.outbox := by
  have hovertaken : lateState.2 0 = [1] := by decide
  have hreach : namedMachine.Reachable (fun _ _ => True) (lateState.1, lateState.2) :=
    @Machine.reachable_after _ _ namedMachine (quietWorld, fun _ => []) ⟨quietWorld_initial, fun _ => rfl⟩ lateFailure
  refine ⟨hovertaken, fun W' hstep => ?_⟩
  have hstale := staleWorkers namedRelays_injective hreach
  refine hstale.1 0 _ (.mark 0) W' lateState_failure ?_ hstep
  rw [hovertaken]
  exact List.mem_singleton.mpr rfl

end Run

end AtlasErp
