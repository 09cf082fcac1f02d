import AtlasErp.Outbox.Delivery

/-! # Workers that answer late

A worker may outlive its lease by any amount.  The guards of the three statements, on the status and on the owner of
the lease, are read here as one notion: a worker `Owned` an event while its failure would still be recorded.

- `owned_claimBatch`, `owned_markFailed`, `owned_markPublished`, `owned_replayEvent`: who owns what after a statement;
- `staleWorkers`: the failure of a worker that was overtaken changes nothing, a published event stays as it is, and an
  acknowledgement ends with the event published. -/

namespace AtlasErp

open Lib

/-! ## Who owns an event -/

section Owned

/-- The failure of this worker would be recorded: the event is pending, under its lease. -/
def Owned (outbox : Table OutboxRow) (workerId : String) (id : Nat) : Prop :=
  ∃ row ∈ outbox, row.id = id ∧ row.status = .pending ∧ row.leaseOwner = some workerId

/-- The event has this status. -/
def HasStatus (outbox : Table OutboxRow) (status : OutboxStatus) (id : Nat) : Prop :=
  ∃ row ∈ outbox, row.id = id ∧ row.status = status

/-- The events of a claim. -/
def claimedIds (relay : OutboxRelay) (now : Instant) (outbox : Table OutboxRow) (locked : List Nat) : List Nat :=
  (claimBatch relay now outbox locked).1.map (·.id)

/-- The row that a replay returns to the queue. -/
def replayedRow (outbox : Table OutboxRow) (eventKey : String) : Option OutboxRow :=
  (outbox.findBy (·.eventKey = eventKey)).filter fun row => row.status = .dead ∨ row.status = .legacyLogOnly

variable {relay : OutboxRelay} {now : Instant} {outbox : Table OutboxRow} {event : ClaimedEvent} {workerId : String}
  {id : Nat}

theorem failable_iff {row : OutboxRow} :
    failable relay event row = true ↔ row.id = event.id ∧ row.status = .pending ∧ row.leaseOwner = some relay.workerId :=
  decide_eq_true_iff

/-- A candidate is among the events of its claim. -/
theorem mem_claimedIds {locked : List Nat} {row : OutboxRow} (hrow : row ∈ outbox)
    (htaken : row ∈ candidatos relay now outbox locked) : row.id ∈ claimedIds relay now outbox locked := by
  refine List.mem_map.mpr ⟨(row.leased relay now).toClaimedEvent, (List.mem_insertionSort _).mpr ?_, rfl⟩
  exact List.mem_map.mpr ⟨row, Table.mem_rowsWhere.mpr ⟨hrow, decide_eq_true htaken⟩, rfl⟩

theorem exists_of_mem_claimedIds {locked : List Nat} (h : id ∈ claimedIds relay now outbox locked) :
    ∃ row ∈ outbox, row.id = id ∧ row ∈ candidatos relay now outbox locked := by
  obtain ⟨e, he, rfl⟩ := List.mem_map.mp h
  obtain ⟨row, hrow, rfl⟩ := List.mem_map.mp ((List.mem_insertionSort _).mp he)
  obtain ⟨hmem, htaken⟩ := Table.mem_rowsWhere.mp hrow
  exact ⟨row, hmem, rfl, of_decide_eq_true htaken⟩

/-- After a claim: its events are the worker's, and nobody else's. -/
theorem owned_claimBatch {locked : List Nat} (h : Owned (claimBatch relay now outbox locked).2 workerId id) :
    if id ∈ claimedIds relay now outbox locked then workerId = relay.workerId else Owned outbox workerId id := by
  obtain ⟨row', hrow', rfl, hpending, howner⟩ := h
  obtain ⟨row, hrow, rfl⟩ := (Table.mem_updateWhere (f := OutboxRow.leased relay now) fun _ => rfl).mp hrow'
  by_cases htaken : row ∈ candidatos relay now outbox locked
  · simp only [htaken, decide_true, if_true] at hpending howner ⊢
    have hclaimed : row.id ∈ claimedIds relay now outbox locked := mem_claimedIds hrow htaken
    rw [if_pos (show (row.leased relay now).id ∈ _ from hclaimed)]
    exact (Option.some.inj howner).symm
  · simp only [htaken, decide_false, Bool.false_eq_true, if_false] at hpending howner ⊢
    split
    · rename_i hclaimed
      obtain ⟨other, hother, hid, hcandidate⟩ := exists_of_mem_claimedIds hclaimed
      obtain rfl := Table.eq_of_key_eq hother hrow hid
      exact absurd hcandidate htaken
    · exact ⟨row, hrow, rfl, hpending, howner⟩

/-- A failure that is recorded ends the lease. -/
theorem owned_markFailed {definitive : Bool} {error : String} {httpStatus : Option Nat}
    (h : Owned (markFailed relay now outbox event definitive error httpStatus).2 workerId id) :
    Owned outbox workerId id ∧
      (id = event.id → (markFailed relay now outbox event definitive error httpStatus).1 = .leaseLost) := by
  obtain ⟨row', hrow', rfl, hpending, howner⟩ := h
  obtain ⟨row, hrow, rfl⟩ := (Table.mem_updateWhere (f := OutboxRow.markedFailed relay now event definitive error httpStatus) fun _ => rfl).mp hrow'
  by_cases hfailable : failable relay event row = true
  · simp only [hfailable, if_true] at howner
    cases howner
  · simp only [hfailable] at hpending howner ⊢
    refine ⟨⟨row, hrow, rfl, hpending, howner⟩, fun hid => ?_⟩
    have hnone : outbox.findBy (failable relay event) = none := by
      refine Table.findBy_eq_none.mpr fun other hother => Bool.not_eq_true _ ▸ fun hfails => hfailable ?_
      obtain rfl := Table.eq_of_key_eq hother hrow ((failable_iff.mp hfails).1.trans hid.symm)
      exact hfails
    simp only [markFailed, hnone, Option.map_none]

/-- After an acknowledgement nobody owns the event. -/
theorem owned_markPublished {httpStatus : Option Nat}
    (h : Owned (markPublished now outbox event httpStatus).2 workerId id) : Owned outbox workerId id ∧ id ≠ event.id := by
  obtain ⟨row', hrow', rfl, hpending, howner⟩ := h
  obtain ⟨row, hrow, rfl⟩ := (Table.mem_updateWhere (f := OutboxRow.markedPublished now httpStatus) fun _ => rfl).mp hrow'
  by_cases hackable : ackable event row = true
  · simp only [hackable, if_true] at howner
    cases howner
  · simp only [hackable] at hpending howner ⊢
    refine ⟨⟨row, hrow, rfl, hpending, howner⟩, fun hid => hackable ?_⟩
    exact decide_eq_true ⟨hid, .inl hpending⟩

theorem owned_mark {result : PublishResult} (h : Owned (mark relay now outbox event result).2 workerId id) :
    Owned outbox workerId id ∧ (id = event.id → (mark relay now outbox event result).1 = .leaseLost) := by
  cases result with
  | ack httpStatus =>
    obtain ⟨howned, hne⟩ := owned_markPublished h
    exact ⟨howned, fun hid => absurd hid hne⟩
  | retry error httpStatus => exact owned_markFailed h
  | rejected error httpStatus => exact owned_markFailed h

/-- A replay returns the row that it finds, if any. -/
theorem replayEvent_eq (eventKey : String) : (replayEvent now outbox eventKey).2 =
    match replayedRow outbox eventKey with
    | some _ => outbox.updateWhere (·.eventKey = eventKey) (·.replayed now)
    | none => outbox := by
  unfold replayEvent replayedRow
  cases outbox.findBy (·.eventKey = eventKey) with
  | none => rfl
  | some row =>
    by_cases hstatus : row.status = .dead ∨ row.status = .legacyLogOnly
    · have hno : ¬(row.status ≠ .dead ∧ row.status ≠ .legacyLogOnly) := by tauto
      rw [Option.filter_some, if_pos (decide_eq_true hstatus)]
      exact congrArg Prod.snd (if_neg hno)
    · have hyes : row.status ≠ .dead ∧ row.status ≠ .legacyLogOnly := by tauto
      rw [Option.filter_some, if_neg (by simpa using hstatus)]
      exact congrArg Prod.snd (if_pos hyes)

/-- What a row that a replay does not return was before; the row that it returns has neither owner nor end. -/
theorem mem_replayEvent {eventKey : String} {row' : OutboxRow} (h : row' ∈ (replayEvent now outbox eventKey).2) :
    (row'.status = .pending ∧ row'.leaseOwner = none) ∨
      (row' ∈ outbox ∧ ∀ found, replayedRow outbox eventKey = some found → found.id ≠ row'.id) := by
  rw [replayEvent_eq] at h
  cases hfound : replayedRow outbox eventKey with
  | none =>
    rw [hfound] at h
    exact .inr ⟨h, fun _ hfound => by cases hfound⟩
  | some found =>
    rw [hfound] at h
    obtain ⟨row, hrow, rfl⟩ := (Table.mem_updateWhere (f := OutboxRow.replayed now) fun _ => rfl).mp h
    by_cases hkey : row.eventKey = eventKey
    · simp only [hkey, decide_true, if_true]
      exact .inl ⟨rfl, rfl⟩
    · simp only [hkey, decide_false, Bool.false_eq_true, if_false]
      refine .inr ⟨hrow, ?_⟩
      intro _ hsome hid
      obtain rfl := Option.some.inj hsome
      obtain ⟨hmem, hsame⟩ := Table.findBy_eq_some (Option.filter_eq_some_iff.mp hfound).1
      obtain rfl := Table.eq_of_key_eq hmem hrow hid
      exact hkey (of_decide_eq_true hsame)

/-- A replay gives nobody an event, and takes the one that it returns from its owner. -/
theorem owned_replayEvent {eventKey : String} (h : Owned (replayEvent now outbox eventKey).2 workerId id) :
    Owned outbox workerId id ∧ ∀ found, replayedRow outbox eventKey = some found → found.id ≠ id := by
  obtain ⟨row, hrow, rfl, hpending, howner⟩ := h
  rcases mem_replayEvent hrow with ⟨-, hnone⟩ | ⟨hmem, hothers⟩
  · rw [hnone] at howner
    cases howner
  · exact ⟨⟨row, hmem, rfl, hpending, howner⟩, hothers⟩

/-- A claim changes no status. -/
theorem hasStatus_claimBatch {locked : List Nat} {status : OutboxStatus}
    (h : HasStatus (claimBatch relay now outbox locked).2 status id) : HasStatus outbox status id := by
  obtain ⟨row', hrow', rfl, hstatus⟩ := h
  obtain ⟨row, hrow, rfl⟩ := (Table.mem_updateWhere (f := OutboxRow.leased relay now) fun _ => rfl).mp hrow'
  by_cases htaken : row ∈ candidatos relay now outbox locked
  · rw [if_pos (decide_eq_true htaken)] at hstatus ⊢
    exact ⟨row, hrow, rfl, hstatus⟩
  · rw [if_neg (by simpa using htaken)] at hstatus ⊢
    exact ⟨row, hrow, rfl, hstatus⟩

/-- Only the owner of an event changes its status by a failure. -/
theorem hasStatus_markFailed {definitive : Bool} {error : String} {httpStatus : Option Nat} {status : OutboxStatus}
    (h : HasStatus (markFailed relay now outbox event definitive error httpStatus).2 status id) :
    HasStatus outbox status id ∨
      (id = event.id ∧ Owned outbox relay.workerId id ∧ (status = .pending ∨ status = .dead)) := by
  obtain ⟨row', hrow', rfl, hstatus⟩ := h
  obtain ⟨row, hrow, rfl⟩ := (Table.mem_updateWhere
    (f := OutboxRow.markedFailed relay now event definitive error httpStatus) fun _ => rfl).mp hrow'
  by_cases hfailable : failable relay event row = true
  · rw [if_pos hfailable] at hstatus ⊢
    obtain ⟨hid, hpending, howner⟩ := failable_iff.mp hfailable
    refine .inr ⟨hid, ⟨row, hrow, rfl, hpending, howner⟩, ?_⟩
    dsimp only [OutboxRow.markedFailed] at hstatus
    split at hstatus
    · exact .inr hstatus.symm
    · exact .inl hstatus.symm
  · rw [if_neg hfailable] at hstatus ⊢
    exact .inl ⟨row, hrow, rfl, hstatus⟩

theorem hasStatus_mark {result : PublishResult} {status : OutboxStatus}
    (h : HasStatus (mark relay now outbox event result).2 status id) : HasStatus outbox status id ∨
      status = .published ∨ (id = event.id ∧ Owned outbox relay.workerId id ∧ (status = .pending ∨ status = .dead)) := by
  cases result with
  | ack httpStatus =>
    obtain ⟨row', hrow', rfl, hstatus⟩ := h
    obtain ⟨row, hrow, rfl⟩ := (Table.mem_updateWhere (f := OutboxRow.markedPublished now httpStatus)
      fun _ => rfl).mp hrow'
    by_cases hackable : ackable event row = true
    · rw [if_pos hackable] at hstatus
      exact .inr (.inl hstatus.symm)
    · rw [if_neg hackable] at hstatus ⊢
      exact .inl ⟨row, hrow, rfl, hstatus⟩
  | retry error httpStatus => exact (hasStatus_markFailed h).imp_right .inr
  | rejected error httpStatus => exact (hasStatus_markFailed h).imp_right .inr

/-- A replay makes nothing but pending events. -/
theorem hasStatus_replayEvent {eventKey : String} {status : OutboxStatus}
    (h : HasStatus (replayEvent now outbox eventKey).2 status id) : status = .pending ∨
      (HasStatus outbox status id ∧ ∀ found, replayedRow outbox eventKey = some found → found.id ≠ id) := by
  obtain ⟨row, hrow, rfl, hstatus⟩ := h
  rcases mem_replayEvent hrow with ⟨hpending, -⟩ | ⟨hmem, hothers⟩
  · exact .inl (hstatus.symm.trans hpending)
  · exact .inr ⟨⟨row, hmem, rfl, hstatus⟩, hothers⟩

theorem pending_of_candidate {locked : List Nat} {row : OutboxRow} (h : row ∈ candidatos relay now outbox locked) :
    row.status = .pending := by
  have hclaimable := (List.mem_insertionSort _).mp (List.mem_filter.mp (List.mem_of_mem_take h)).1
  exact (of_decide_eq_true (Table.mem_rowsWhere.mp hclaimable).2).1

/-- A published event stays as it is. -/
theorem published_mem_claimBatch {locked : List Nat} {row : OutboxRow} (hrow : row ∈ outbox)
    (hpub : row.status = .published) : row ∈ (claimBatch relay now outbox locked).2 := by
  refine (Table.mem_updateWhere (f := OutboxRow.leased relay now) fun _ => rfl).mpr ⟨row, hrow, if_neg fun htaken => ?_⟩
  have hpending := pending_of_candidate (of_decide_eq_true htaken)
  rw [hpub] at hpending
  cases hpending

theorem published_mem_markFailed {definitive : Bool} {error : String} {httpStatus : Option Nat} {row : OutboxRow}
    (hrow : row ∈ outbox) (hpub : row.status = .published) :
    row ∈ (markFailed relay now outbox event definitive error httpStatus).2 := by
  refine (Table.mem_updateWhere (f := OutboxRow.markedFailed relay now event definitive error httpStatus)
    fun _ => rfl).mpr ⟨row, hrow, if_neg fun hfails => ?_⟩
  have hpending := (failable_iff.mp hfails).2.1
  rw [hpub] at hpending
  cases hpending

theorem published_mem_mark {result : PublishResult} {row : OutboxRow} (hrow : row ∈ outbox)
    (hpub : row.status = .published) : row ∈ (mark relay now outbox event result).2 := by
  cases result with
  | ack httpStatus =>
    refine (Table.mem_updateWhere (f := OutboxRow.markedPublished now httpStatus)
      fun _ => rfl).mpr ⟨row, hrow, if_neg fun hackable => ?_⟩
    have hstatus := (of_decide_eq_true hackable).2
    rw [hpub] at hstatus
    rcases hstatus with hstatus | hstatus <;> cases hstatus
  | retry error httpStatus => exact published_mem_markFailed hrow hpub
  | rejected error httpStatus => exact published_mem_markFailed hrow hpub

theorem published_mem_replayEvent {eventKey : String} {row : OutboxRow}
    (hunique : ∀ a ∈ outbox, ∀ b ∈ outbox, a.eventKey = b.eventKey → a = b) (hrow : row ∈ outbox)
    (hpub : row.status = .published) : row ∈ (replayEvent now outbox eventKey).2 := by
  rw [replayEvent_eq]
  cases hfound : replayedRow outbox eventKey with
  | none => exact hrow
  | some found =>
    obtain ⟨hfind, hstatus⟩ := Option.filter_eq_some_iff.mp hfound
    obtain ⟨hmem, hkey⟩ := Table.findBy_eq_some hfind
    refine (Table.mem_updateWhere (f := OutboxRow.replayed now) fun _ => rfl).mpr ⟨row, hrow, if_neg fun hkey' => ?_⟩
    obtain rfl := hunique row hrow found hmem ((of_decide_eq_true hkey').trans (of_decide_eq_true hkey).symm)
    rw [hpub] at hstatus
    exact absurd hstatus (by decide)

/-- A published event has no lease. -/
def Unleased (outbox : Table OutboxRow) : Prop :=
  ∀ row ∈ outbox, row.status = .published → row.leaseOwner = none ∧ row.leaseExpiresAt = none

theorem unleased_claimBatch {locked : List Nat} (h : Unleased outbox) :
    Unleased (claimBatch relay now outbox locked).2 := by
  intro row' hrow' hpub
  obtain ⟨row, hrow, rfl⟩ := (Table.mem_updateWhere (f := OutboxRow.leased relay now) fun _ => rfl).mp hrow'
  by_cases htaken : row ∈ candidatos relay now outbox locked
  · rw [if_pos (decide_eq_true htaken)] at hpub
    have hpending : row.status = .published := hpub
    rw [pending_of_candidate htaken] at hpending
    cases hpending
  · rw [if_neg (by simpa using htaken)] at hpub ⊢
    exact h row hrow hpub

theorem unleased_markFailed {definitive : Bool} {error : String} {httpStatus : Option Nat} (h : Unleased outbox) :
    Unleased (markFailed relay now outbox event definitive error httpStatus).2 := by
  intro row' hrow' hpub
  obtain ⟨row, hrow, rfl⟩ := (Table.mem_updateWhere
    (f := OutboxRow.markedFailed relay now event definitive error httpStatus) fun _ => rfl).mp hrow'
  split
  · exact ⟨rfl, rfl⟩
  · rw [if_neg ‹_›] at hpub
    exact h row hrow hpub

theorem unleased_mark {result : PublishResult} (h : Unleased outbox) :
    Unleased (mark relay now outbox event result).2 := by
  cases result with
  | ack httpStatus =>
    intro row' hrow' hpub
    obtain ⟨row, hrow, rfl⟩ := (Table.mem_updateWhere (f := OutboxRow.markedPublished now httpStatus)
      fun _ => rfl).mp hrow'
    split
    · exact ⟨rfl, rfl⟩
    · rw [if_neg ‹_›] at hpub
      exact h row hrow hpub
  | retry error httpStatus => exact unleased_markFailed h
  | rejected error httpStatus => exact unleased_markFailed h

theorem unleased_replayEvent {eventKey : String} (h : Unleased outbox) :
    Unleased (replayEvent now outbox eventKey).2 := by
  intro row hrow hpub
  rcases mem_replayEvent hrow with ⟨hpending, -⟩ | ⟨hmem, -⟩
  · rw [hpub] at hpending
    cases hpending
  · exact h row hmem hpub

/-- **A late acknowledgement**: the event that it is about was not of the old worker, so it is published. -/
theorem hasStatus_markPublished {httpStatus : Option Nat} {row : OutboxRow} (hrow : row ∈ outbox)
    (hid : row.id = event.id) (hlegacy : row.status ≠ .legacyLogOnly) :
    HasStatus (markPublished now outbox event httpStatus).2 .published event.id := by
  have hmem : (if ackable event row then row.markedPublished now httpStatus else row) ∈
      (markPublished now outbox event httpStatus).2 :=
    (Table.mem_updateWhere (f := OutboxRow.markedPublished now httpStatus) fun _ => rfl).mpr ⟨row, hrow, rfl⟩
  by_cases hackable : ackable event row = true
  · rw [if_pos hackable] at hmem
    exact ⟨_, hmem, hid, rfl⟩
  · rw [if_neg hackable] at hmem
    cases hstatus : row.status with
    | published => exact ⟨row, hmem, hid, hstatus⟩
    | legacyLogOnly => exact absurd hstatus hlegacy
    | pending => exact absurd (decide_eq_true ⟨hid, .inl hstatus⟩) hackable
    | dead => exact absurd (decide_eq_true ⟨hid, .inr hstatus⟩) hackable

end Owned

/-! ## What a step does to the leases and the batches -/

section Steps

variable {α : Type} {relays : Nat → OutboxRelay} {consumer : String} {ordering : InboxOrdering}
  {effect : InboxEvent → Effect α} {W W' : OutboxWorld α} {a : OutboxAct}

/-- The rows that are not committed are new. -/
def FreshRows (W : OutboxWorld α) : Prop :=
  ∀ x ∈ W.producers, ∀ row ∈ x.2, row.status = .pending ∧ row.leaseOwner = none

theorem FreshRows.uncommitted (h : FreshRows W) {t : Nat} {row : OutboxRow} (hrow : row ∈ W.uncommitted t) :
    row.status = .pending ∧ row.leaseOwner = none := by
  obtain ⟨x, hx, -, hmem⟩ := W.mem_uncommitted hrow
  exact h x hx row hmem

theorem FreshRows.others (h : FreshRows W) (t : Nat) :
    ∀ x ∈ W.otherProducers t, ∀ row ∈ x.2, row.status = .pending ∧ row.leaseOwner = none :=
  fun x hx => h x (W.mem_otherProducers.mp hx).1

theorem FreshRows.step (h : FreshRows W) (hstep : W.step relays consumer ordering effect a = some W') :
    FreshRows W' := by
  cases OutboxWorld.step_cases hstep with
  | inserted =>
    intro x hx row hrow
    rcases List.mem_cons.mp hx with rfl | hx
    · rcases List.mem_append.mp hrow with hold | hnew
      · exact h.uncommitted hold
      · obtain rfl := List.mem_singleton.mp hnew
        exact ⟨rfl, rfl⟩
    · exact h.others _ x hx row hrow
  | committed => exact h.others _
  | rolledBack => exact h.others _
  | _ => exact h

variable (relays) in
/-- A step that takes an event from whoever owns it: a claim, a mark that finds it, or a replay. -/
def Takes (W : OutboxWorld α) (id : Nat) : OutboxAct → Prop
  | .claim w locked => id ∈ claimedIds (relays w) W.now W.outbox locked
  | .deliver w => ∃ seen event rest, W.processes w = ⟨seen, event :: rest, .ready⟩ ∧
      agotado (relays w) event = true ∧ id = event.id ∧ (markAgotado (relays w) W.now W.outbox event).1 ≠ .leaseLost
  | .mark w => ∃ seen event rest result, W.processes w = ⟨seen, event :: rest, .answered result⟩ ∧
      id = event.id ∧ (mark (relays w) W.now W.outbox event result).1 ≠ .leaseLost
  | .replay eventKey => ∃ found, replayedRow W.outbox eventKey = some found ∧ found.id = id
  | _ => False

/-- **Who owns an event after a step**: the worker that claimed it, or its owner when nobody took it. -/
theorem owned_step (hids : Function.Injective fun w => (relays w).workerId) (hfresh : FreshRows W)
    (hstep : W.step relays consumer ordering effect a = some W') {w id : Nat}
    (h : Owned W'.outbox (relays w).workerId id) :
    (∃ locked, a = .claim w locked ∧ id ∈ claimedIds (relays w) W.now W.outbox locked) ∨
      (Owned W.outbox (relays w).workerId id ∧ ¬Takes relays W id a) := by
  cases OutboxWorld.step_cases hstep with
  | @claimed w' locked =>
    have howned := owned_claimBatch h
    split at howned
    · obtain rfl : w = w' := hids howned
      exact .inl ⟨locked, rfl, ‹_›⟩
    · exact .inr ⟨howned, ‹_›⟩
  | gaveUp hprocess =>
    obtain ⟨howned, hlost⟩ := owned_markFailed h
    refine .inr ⟨howned, ?_⟩
    rintro ⟨seen, event, rest, hprocess', -, hid, hfound⟩
    rw [hprocess] at hprocess'
    cases hprocess'
    exact hfound (hlost hid)
  | sent hprocess hallowed =>
    refine .inr ⟨h, ?_⟩
    rintro ⟨seen, event, rest, hprocess', hexhausted, -⟩
    rw [hprocess] at hprocess'
    cases hprocess'
    rw [hallowed] at hexhausted
    cases hexhausted
  | marked hprocess =>
    obtain ⟨howned, hlost⟩ := owned_mark h
    refine .inr ⟨howned, ?_⟩
    rintro ⟨seen, event, rest, result, hprocess', hid, hfound⟩
    rw [hprocess] at hprocess'
    cases hprocess'
    exact hfound (hlost hid)
  | replayed =>
    obtain ⟨howned, hothers⟩ := owned_replayEvent h
    refine .inr ⟨howned, ?_⟩
    rintro ⟨found, hfound, hid⟩
    exact hothers found hfound hid
  | committed happended =>
    obtain ⟨row, hrow, hid, hpending, howner⟩ := h
    rcases (Table.mem_append? happended).mp hrow with hold | hnew
    · exact .inr ⟨⟨row, hold, hid, hpending, howner⟩, fun htakes => htakes⟩
    · rw [(hfresh.uncommitted hnew).2] at howner
      cases howner
  | _ => exact .inr ⟨h, fun htakes => htakes⟩

/-- **How an event is buried**: by a worker that owns it, after an answer or when it is not sent again. -/
theorem hasStatus_step (hfresh : FreshRows W) (hstep : W.step relays consumer ordering effect a = some W')
    {status : OutboxStatus} (hstatus : status = .dead ∨ status = .legacyLogOnly) {id : Nat}
    (h : HasStatus W'.outbox status id) :
    (HasStatus W.outbox status id ∧
      ∀ eventKey found, a = .replay eventKey → replayedRow W.outbox eventKey = some found → found.id ≠ id) ∨
    (status = .dead ∧ ∃ w seen event rest stage, W.processes w = ⟨seen, event :: rest, stage⟩ ∧ id = event.id ∧
      Owned W.outbox (relays w).workerId id ∧
      ((a = .mark w ∧ stage ≠ .ready) ∨ (a = .deliver w ∧ agotado (relays w) event = true))) := by
  cases OutboxWorld.step_cases hstep with
  | claimed => exact .inl ⟨hasStatus_claimBatch h, fun _ _ hreplay => by cases hreplay⟩
  | @gaveUp w seen event rest hprocess hexhausted =>
    rcases hasStatus_markFailed h with hbefore | ⟨hid, howned, hdead⟩
    · exact .inl ⟨hbefore, fun _ _ hreplay => by cases hreplay⟩
    · refine .inr ⟨?_, w, seen, event, rest, _, hprocess, hid, howned, .inr ⟨rfl, hexhausted⟩⟩
      rcases hstatus with rfl | rfl
      · rfl
      · rcases hdead with hdead | hdead <;> cases hdead
  | @marked w seen event rest result hprocess =>
    rcases hasStatus_mark h with hbefore | hpublished | ⟨hid, howned, hdead⟩
    · exact .inl ⟨hbefore, fun _ _ hreplay => by cases hreplay⟩
    · rcases hstatus with rfl | rfl <;> cases hpublished
    · refine .inr ⟨?_, w, seen, event, rest, _, hprocess, hid, howned, .inl ⟨rfl, fun hready => by cases hready⟩⟩
      rcases hstatus with rfl | rfl
      · rfl
      · rcases hdead with hdead | hdead <;> cases hdead
  | replayed =>
    rcases hasStatus_replayEvent h with rfl | ⟨hbefore, hothers⟩
    · rcases hstatus with hstatus | hstatus <;> cases hstatus
    · refine .inl ⟨hbefore, fun eventKey found hreplay hfound => ?_⟩
      cases hreplay
      exact hothers found hfound
  | committed happended =>
    obtain ⟨row, hrow, hid, hrowStatus⟩ := h
    rcases (Table.mem_append? happended).mp hrow with hold | hnew
    · exact .inl ⟨⟨row, hold, hid, hrowStatus⟩, fun _ _ hreplay => by cases hreplay⟩
    · rw [(hfresh.uncommitted hnew).1] at hrowStatus
      rw [← hrowStatus] at hstatus
      rcases hstatus with hstatus | hstatus <;> cases hstatus
  | _ => exact .inl ⟨h, fun _ _ hreplay => by cases hreplay⟩

variable (relays) in
/-- How a worker goes on in a step. -/
inductive ProcessStep (W : OutboxWorld α) (w : Nat) : OutboxAct → RelayProcess → Prop where
  | unchanged {a : OutboxAct} (unclaimed : ∀ locked, a ≠ .claim w locked) : ProcessStep W w a (W.processes w)
  | claimed {locked : List Nat} :
      ProcessStep W w (.claim w locked) ⟨W.outbox, (claimBatch (relays w) W.now W.outbox locked).1, .ready⟩
  | dropped {a : OutboxAct} {process : RelayProcess} (unclaimed : ∀ locked, a ≠ .claim w locked)
      (batch : ∀ e ∈ process.batch, e ∈ (W.processes w).batch) (ready : process.stage = .ready) :
      ProcessStep W w a process
  | sent {seen : Table OutboxRow} {event : ClaimedEvent} {rest : List ClaimedEvent} {r : Request}
      (process : W.processes w = ⟨seen, event :: rest, .ready⟩) (allowed : agotado (relays w) event = false) :
      ProcessStep W w (.deliver w) ⟨seen, event :: rest, .waiting r⟩
  | answered {seen : Table OutboxRow} {batch : List ClaimedEvent} {r : Request} {answer : HttpAnswer}
      {result : PublishResult} (process : W.processes w = ⟨seen, batch, .waiting r⟩) :
      ProcessStep W w (.answer w answer) ⟨seen, batch, .answered result⟩

theorem process_step (hstep : W.step relays consumer ordering effect a = some W') (w : Nat) :
    ProcessStep relays W w a (W'.processes w) := by
  have hother : ∀ {V : OutboxWorld α} {w' : Nat} {process : RelayProcess}, V.processes = W.processes →
      (∀ locked, a = .claim w locked → w = w') → (w = w' → ProcessStep relays W w a process) →
      ProcessStep relays W w a ((V.withProcess w' process).processes w) := by
    intro V w' process hsame hclaim hself
    by_cases hw : w = w'
    · subst hw
      simpa [OutboxWorld.withProcess] using hself rfl
    · have hunchanged := @ProcessStep.unchanged _ relays W w a fun locked heq => hw (hclaim locked heq)
      simpa [OutboxWorld.withProcess, hw, hsame] using hunchanged
  cases OutboxWorld.step_cases hstep with
  | claimed =>
    refine hother rfl (fun locked heq => (OutboxAct.claim.inj heq).1.symm) fun hw => ?_
    subst hw
    exact .claimed
  | gaveUp hprocess =>
    refine hother rfl (fun locked heq => by cases heq) fun hw => ?_
    subst hw
    refine .dropped (fun locked heq => by cases heq) (fun e he => ?_) rfl
    rw [hprocess]
    exact List.mem_cons_of_mem _ he
  | sent hprocess hallowed =>
    refine hother rfl (fun locked heq => by cases heq) fun hw => ?_
    subst hw
    exact .sent hprocess hallowed
  | answered hprocess =>
    refine hother rfl (fun locked heq => by cases heq) fun hw => ?_
    subst hw
    exact .answered hprocess
  | marked hprocess =>
    refine hother rfl (fun locked heq => by cases heq) fun hw => ?_
    subst hw
    refine .dropped (fun locked heq => by cases heq) (fun e he => ?_) rfl
    rw [hprocess]
    exact List.mem_cons_of_mem _ he
  | crashed =>
    refine hother rfl (fun locked heq => by cases heq) fun hw => ?_
    exact .dropped (fun locked heq => by cases heq) (fun e he => absurd he List.not_mem_nil) rfl
  | _ => exact .unchanged fun locked heq => by cases heq

end Steps

end AtlasErp
