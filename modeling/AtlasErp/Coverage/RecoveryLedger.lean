import AtlasErp.Coverage.System

/-! # The recovery ledger

The recovered amount of a recovery is a stored sum.  Every operation recomputes it under the lock of
the recovery; references and reversals are unique.

- `paymentsOf`, `reversalsOf`: what the movements of a recovery say;
- `RecoveryBooks`: the stored amount is the difference, between zero and what was covered;
- `recovery_ledger`: every run keeps the books, and a repeated reference changes nothing. -/

namespace AtlasErp

open Lib

/-- A movement of one type on a recovery. -/
def ConsumerRecoveryMovement.isOf (m : ConsumerRecoveryMovement) (recoveryId : Nat)
    (type : RecoveryMovementType) : Bool :=
  m.recoveryId = recoveryId ∧ m.movementType = type

/-- What a movement adds to the amount recovered. -/
def ConsumerRecoveryMovement.signed (m : ConsumerRecoveryMovement) : Int :=
  match m.movementType with
  | .payment => m.amount
  | .reversal => 0 - m.amount

/-- The sum of the movements of one type on a recovery. -/
def movementsOf (movements : Table ConsumerRecoveryMovement) (recoveryId : Nat)
    (type : RecoveryMovementType) : Int :=
  ((movements.rowsWhere (·.isOf recoveryId type)).map (·.amount)).sum

/-- What the consumer paid on a recovery. -/
def paymentsOf (db : CoverageDb) (recoveryId : Nat) : Int := movementsOf db.movements recoveryId .payment

/-- What was reversed on a recovery. -/
def reversalsOf (db : CoverageDb) (recoveryId : Nat) : Int := movementsOf db.movements recoveryId .reversal

/-- The books of the recoveries. -/
structure RecoveryBooks (db : CoverageDb) : Prop where
  balance : ∀ r ∈ db.recoveries, r.amountRecovered = paymentsOf db r.id - reversalsOf db r.id
  bounds : ∀ r ∈ db.recoveries, 0 ≤ r.amountRecovered ∧ r.amountRecovered ≤ r.amountCoveredByAtlas
  own_recovery : ∀ m ∈ db.movements, ∃ r ∈ db.recoveries, r.id = m.recoveryId
  one_reversal : ∀ m ∈ db.movements, ∀ m' ∈ db.movements, m.reversesMovementId ≠ none →
    m.reversesMovementId = m'.reversesMovementId → m = m'
  one_reference : ∀ m ∈ db.movements, ∀ m' ∈ db.movements,
    m.paymentReference = m'.paymentReference → m = m'
  movement_pos : ∀ m ∈ db.movements, 0 < m.amount
  settled_pos : ∀ s ∈ db.settlements, 0 < s.amount

/-- Recoveries on which nothing was recovered yet. -/
structure FreshRecoveries (db : CoverageDb) : Prop where
  recovered : ∀ r ∈ db.recoveries, r.amountRecovered = 0 ∧ 0 ≤ r.amountCoveredByAtlas
  no_movements : db.movements.rows = []
  settled_pos : ∀ s ∈ db.settlements, 0 < s.amount

section Books

variable {db db' : CoverageDb}

theorem movementsOf_eq (movements : Table ConsumerRecoveryMovement) (recoveryId : Nat)
    (type : RecoveryMovementType) :
    movementsOf movements recoveryId type =
      movements.total (fun m => if m.isOf recoveryId type then m.amount else 0) :=
  Table.sum_rowsWhere _ _

theorem movementsOf_create {movements : Table ConsumerRecoveryMovement}
    {row : Nat → ConsumerRecoveryMovement} (hrow : ∀ k, (row k).id = k) (recoveryId : Nat)
    (type : RecoveryMovementType) :
    movementsOf (movements.create row) recoveryId type = movementsOf movements recoveryId type +
      (if (row movements.nextKey).isOf recoveryId type then (row movements.nextKey).amount else 0) := by
  rw [movementsOf_eq, movementsOf_eq]
  exact Table.total_create _ hrow

/-- A recovery without movements of its own sums to zero. -/
theorem movementsOf_eq_zero {movements : Table ConsumerRecoveryMovement} {recoveryId : Nat}
    (h : ∀ m ∈ movements, m.recoveryId ≠ recoveryId) (type : RecoveryMovementType) :
    movementsOf movements recoveryId type = 0 := by
  rw [movementsOf_eq]
  refine Table.total_eq_zero fun m hm => if_neg ?_
  simp [ConsumerRecoveryMovement.isOf, h m hm]

theorem FreshRecoveries.books (h : FreshRecoveries db) : RecoveryBooks db := by
  have hnone : ∀ m, m ∉ db.movements := fun m hm => by
    have hrows : m ∈ db.movements.rows := hm
    rw [h.no_movements] at hrows
    cases hrows
  have hzero : ∀ recoveryId type, movementsOf db.movements recoveryId type = 0 := fun _ type =>
    movementsOf_eq_zero (fun m hm => absurd hm (hnone m)) type
  refine ⟨fun r hr => ?_, fun r hr => ?_, fun m hm => absurd hm (hnone m),
    fun m hm => absurd hm (hnone m), fun m hm => absurd hm (hnone m),
    fun m hm => absurd hm (hnone m), h.settled_pos⟩
  · rw [(h.recovered r hr).1, paymentsOf, reversalsOf, hzero, hzero]
    rfl
  · have hr := h.recovered r hr
    omega

/-- Steps that touch neither recoveries nor movements. -/
theorem RecoveryBooks.frame (h : RecoveryBooks db) (hr : db'.recoveries = db.recoveries)
    (hm : db'.movements = db.movements) (hs : ∀ s ∈ db'.settlements, 0 < s.amount) :
    RecoveryBooks db' := by
  obtain ⟨hbalance, hbounds, hown, hreversal, hreference, hpos, -⟩ := h
  refine ⟨?_, ?_, ?_, ?_, ?_, ?_, hs⟩
  · rw [hr]
    unfold paymentsOf reversalsOf
    rw [hm]
    exact hbalance
  · rwa [hr]
  · rwa [hr, hm]
  · rwa [hm]
  · rwa [hm]
  · rwa [hm]

/-- A recovery is born without movements. -/
theorem RecoveryBooks.born (h : RecoveryBooks db) {row : Nat → ConsumerRecovery}
    (hid : ∀ k, (row k).id = k) (hzero : ∀ k, (row k).amountRecovered = 0)
    (hcovered : ∀ k, 0 ≤ (row k).amountCoveredByAtlas) (hr : db'.recoveries = db.recoveries.create row)
    (hm : db'.movements = db.movements) (hs : ∀ s ∈ db'.settlements, 0 < s.amount) :
    RecoveryBooks db' := by
  have hcreate := fun {x} => @Table.mem_create _ _ db.recoveries row hid x
  have hnew : ∀ m ∈ db.movements, m.recoveryId ≠ db.recoveries.nextKey := by
    intro m hmem heq
    obtain ⟨r, hmem', hrid⟩ := h.own_recovery m hmem
    have hlt : r.id < db.recoveries.nextKey := Table.key_lt_nextKey hmem'
    omega
  refine ⟨?_, ?_, ?_, ?_, ?_, ?_, hs⟩
  · intro r hmem
    rw [hr] at hmem
    unfold paymentsOf reversalsOf
    rw [hm]
    rcases hcreate.mp hmem with hmem | rfl
    · exact h.balance r hmem
    · rw [hzero, hid, movementsOf_eq_zero hnew, movementsOf_eq_zero hnew]
      rfl
  · intro r hmem
    rw [hr] at hmem
    rcases hcreate.mp hmem with hmem | rfl
    · exact h.bounds r hmem
    · rw [hzero]
      exact ⟨le_refl 0, hcovered _⟩
  · intro m hmem
    rw [hm] at hmem
    obtain ⟨r, hmem', hrid⟩ := h.own_recovery m hmem
    exact ⟨r, hr ▸ hcreate.mpr (.inl hmem'), hrid⟩
  · rw [hm]
    exact h.one_reversal
  · rw [hm]
    exact h.one_reference
  · rw [hm]
    exact h.movement_pos

/-- Recording a movement: its recovery takes the amount the movement says. -/
theorem RecoveryBooks.record (h : RecoveryBooks db) {recovery : ConsumerRecovery} {nextMinor : Int}
    {row : Nat → ConsumerRecoveryMovement} {outbox : List CoverageOutboxEvent}
    (hrecovery : recovery ∈ db.recoveries) (hid : ∀ k, (row k).id = k)
    (hown : ∀ k, (row k).recoveryId = recovery.id)
    (hnext : ∀ k, nextMinor = recovery.amountRecovered + (row k).signed)
    (hbounds : 0 ≤ nextMinor ∧ nextMinor ≤ recovery.amountCoveredByAtlas)
    (hreversal : ∀ k, ∀ m ∈ db.movements, (row k).reversesMovementId ≠ none →
      m.reversesMovementId ≠ (row k).reversesMovementId)
    (hreference : ∀ k, ∀ m ∈ db.movements, m.paymentReference ≠ (row k).paymentReference)
    (hpos : ∀ k, 0 < (row k).amount) :
    RecoveryBooks { db with
      movements := db.movements.create row
      recoveries := db.recoveries.put
        (updateRecoveredAmount recovery nextMinor recovery.amountCoveredByAtlas)
      outbox } := by
  have hcreate := fun {x} => @Table.mem_create _ _ db.movements row hid x
  have hput := fun {x} => @Table.mem_put _ _ db.recoveries recovery
    (updateRecoveredAmount recovery nextMinor recovery.amountCoveredByAtlas) hrecovery rfl x
  refine ⟨?_, ?_, ?_, ?_, ?_, ?_, h.settled_pos⟩
  · intro r hr
    unfold paymentsOf reversalsOf
    rw [movementsOf_create hid, movementsOf_create hid]
    rcases hput.mp hr with rfl | ⟨hr, hne⟩
    · have hbalance := h.balance recovery hrecovery
      have hnow := hnext db.movements.nextKey
      unfold paymentsOf reversalsOf at hbalance
      change nextMinor = _
      cases htype : (row db.movements.nextKey).movementType <;>
        simp only [htype, ConsumerRecoveryMovement.isOf, ConsumerRecoveryMovement.signed, hown, updateRecoveredAmount, true_and,
          decide_true, decide_false, reduceCtorEq, if_true, Bool.false_eq_true, if_false] at hnow ⊢ <;>
        omega
    · have hother : (row db.movements.nextKey).recoveryId ≠ r.id := by
        rw [hown]
        exact fun heq => hne heq.symm
      have hbalance := h.balance r hr
      unfold paymentsOf reversalsOf at hbalance
      simpa [ConsumerRecoveryMovement.isOf, hother] using hbalance
  · intro r hr
    rcases hput.mp hr with rfl | ⟨hr, -⟩
    · exact hbounds
    · exact h.bounds r hr
  · intro m hm
    have hkept : ∀ k, (∃ r ∈ db.recoveries, r.id = k) → ∃ r ∈ db.recoveries.put
        (updateRecoveredAmount recovery nextMinor recovery.amountCoveredByAtlas), r.id = k := by
      rintro k ⟨r, hr, rfl⟩
      by_cases hkey : r.id = recovery.id
      · exact ⟨_, hput.mpr (.inl rfl), hkey.symm⟩
      · exact ⟨r, hput.mpr (.inr ⟨hr, hkey⟩), rfl⟩
    rcases hcreate.mp hm with hm | rfl
    · exact hkept _ (h.own_recovery m hm)
    · exact hkept _ ⟨recovery, hrecovery, (hown _).symm⟩
  · intro m hm m' hm' hsome hsame
    rcases hcreate.mp hm with hm | rfl <;> rcases hcreate.mp hm' with hm' | rfl
    · exact h.one_reversal m hm m' hm' hsome hsame
    · exact absurd hsame (hreversal _ m hm (hsame ▸ hsome))
    · exact absurd hsame.symm (hreversal _ m' hm' hsome)
    · rfl
  · intro m hm m' hm' hsame
    rcases hcreate.mp hm with hm | rfl <;> rcases hcreate.mp hm' with hm' | rfl
    · exact h.one_reference m hm m' hm' hsame
    · exact absurd hsame (hreference _ m hm)
    · exact absurd hsame.symm (hreference _ m' hm')
    · rfl
  · intro m hm
    rcases hcreate.mp hm with hm | rfl
    · exact h.movement_pos m hm
    · exact hpos _

/-! ## Steps and runs -/

theorem RecoveryBooks.same (h : RecoveryBooks db) (hsame : SameLedger db db') : RecoveryBooks db' := by
  obtain ⟨_, _, _, rfl⟩ := hsame
  exact h.frame rfl rfl h.settled_pos

theorem RecoveryBooks.decide (h : RecoveryBooks db) (input : NoticeDecisionInput) :
    RecoveryBooks (applyNoticeDecision db input).2 := h.frame rfl rfl h.settled_pos

theorem RecoveryBooks.receive (h : RecoveryBooks db) {envelope : CoreEnvelope} {now : Instant}
    (hreceive : ReceiveStep db envelope now db') : RecoveryBooks db' := by
  cases hreceive with
  | quiet same => exact h.same same
  | reported _ _ same =>
    have hnotices : ∀ notices, RecoveryBooks { db with notices } := fun _ => h.frame rfl rfl h.settled_pos
    exact (hnotices _).same same
  | decided _ _ _ _ _ same => exact (h.decide _).same same
  | createdDecided _ _ _ _ same =>
    have hnotices : ∀ notices, RecoveryBooks { db with notices } := fun _ => h.frame rfl rfl h.settled_pos
    exact ((hnotices _).decide _).same same

/-- **Step.** Every step of coverage keeps the books. -/
theorem RecoveryBooks.step (h : RecoveryBooks db) {request : CoverageRequest}
    (hstep : CoverageStep db request db') : RecoveryBooks db' := by
  cases hstep with
  | quiet same => exact h.same same
  | scheduled => exact h.frame rfl rfl h.settled_pos
  | cancelled => exact h.frame rfl rfl h.settled_pos
  | @registered _ input actor _ payable =>
    refine h.frame rfl rfl fun s hs => ?_
    have hs' : s ∈ db.settlements.create (newSettlement input actor payable) := hs
    rcases (Table.mem_create ..).mp hs' with hs | rfl
    · exact h.settled_pos s hs
    · exact input.amount.property
  | @approved _ note actor now payable settlement installment purchase _ _ approval =>
    obtain ⟨hmem, -⟩ := findLiveSettlement_eq_some approval.live
    have hpos := h.settled_pos settlement hmem
    have hrecovery : ∀ k, 0 ≤ (newRecovery payable settlement installment purchase k).amountCoveredByAtlas :=
      fun _ => le_of_lt hpos
    refine h.born (fun _ => rfl) (fun _ => rfl) hrecovery rfl rfl fun s hs => ?_
    rcases (Table.mem_put (r := settlement.decide note actor now .confirmed) hmem rfl).mp hs
      with rfl | ⟨hs, -⟩
    · exact hpos
    · exact h.settled_pos s hs
  | @rejected _ note actor now settlement _ hmem =>
    refine h.frame rfl rfl fun s hs => ?_
    rcases (Table.mem_put (r := settlement.decide note actor now .rejected) hmem rfl).mp hs
      with rfl | ⟨hs, -⟩
    · exact h.settled_pos settlement hmem
    · exact h.settled_pos s hs
  | reviewed => exact h.frame rfl rfl h.settled_pos
  | received hreceive => exact h.receive hreceive
  | swept => exact h.frame rfl rfl h.settled_pos
  | @paid _ input _ _ recovery _ hfind hunknown hfits =>
    have hmem := (Table.find?_eq_some.mp hfind).1
    have hbounds := h.bounds recovery hmem
    have hpos := input.amount.property
    refine h.record hmem (fun _ => rfl) (fun _ => rfl) (fun _ => rfl) ⟨by omega, hfits⟩
      (fun _ _ _ hnone => absurd rfl hnone) (fun _ m hm => ?_) fun _ => hpos
    have hother : m.paymentReference ≠ input.paymentReference := by
      simpa using Table.findBy_eq_none.mp hunknown m hm
    exact hother
  | @reversed _ _ input _ _ recovery original _ hfind horiginal hown hpayment hnot hunknown hfits =>
    have hmem := (Table.find?_eq_some.mp hfind).1
    have hbounds := h.bounds recovery hmem
    have hpos := h.movement_pos original horiginal
    refine h.record hmem (fun _ => rfl) (fun _ => rfl) (fun _ => ?_) ⟨hfits, by omega⟩
      (fun _ m hm _ => ?_) (fun _ m hm => ?_) fun _ => hpos
    · change _ = recovery.amountRecovered + (0 - original.amount)
      omega
    · have hother : m.reversesMovementId ≠ some original.id := by
        simpa using Table.findBy_eq_none.mp hnot m hm
      exact hother
    · have hother : m.paymentReference ≠ input.reversalReference := by
        simpa using Table.findBy_eq_none.mp hunknown m hm
      exact hother

/-- The books hold in every reachable database, whatever the requests. -/
theorem recoveryBooks_of_reachable
    (h : (coverageSystem FreshRecoveries).Reachable (fun _ _ => True) db) : RecoveryBooks db :=
  Machine.invariant (fun _ => FreshRecoveries.books)
    (fun _ _ _ _ hstep hbooks => hbooks.step (coverageSystem_step hstep)) h

end Books

/-! ## Repeated references -/

section Replay

variable {db : CoverageDb}

/-- A reference that some movement already holds. -/
def CoverageDb.knowsReference (db : CoverageDb) (reference : String) : Prop :=
  ∃ m ∈ db.movements, m.paymentReference = reference

theorem movementByReference_isSome {reference : String} (h : db.knowsReference reference) :
    (db.movementByReference reference).isSome := by
  obtain ⟨m, hm, hreference⟩ := h
  exact Table.findBy_isSome.mpr ⟨m, hm, decide_eq_true hreference⟩

/-- A payment under a known reference changes nothing. -/
theorem applyRecoveryPayment_again (recoveryId : Nat) (input : ApplyRecoveryPaymentDto)
    (actor : Option CoverageActor) (now : Instant) (h : db.knowsReference input.paymentReference) :
    perform db (.applyRecoveryPayment recoveryId input actor now) = db := by
  have hknown := movementByReference_isSome h
  change committed db (applyRecoveryPayment db recoveryId input actor now) = db
  cases hresult : applyRecoveryPayment db recoveryId input actor now with
  | error e => rfl
  | ok r =>
    obtain ⟨hdb, -⟩ | ⟨_, _, hunknown, -⟩ := applyRecoveryPayment_cases hresult
    · exact hdb
    · rw [hunknown] at hknown
      cases hknown

/-- A reversal under a known reference changes nothing. -/
theorem reverseRecoveryMovement_again (recoveryId movementId : Nat)
    (input : ReverseRecoveryMovementDto) (actor : CoverageActor) (now : Instant)
    (h : db.knowsReference input.reversalReference) :
    perform db (.reverseRecoveryMovement recoveryId movementId input actor now) = db := by
  have hknown := movementByReference_isSome h
  change committed db (reverseRecoveryMovement db recoveryId movementId input actor now) = db
  cases hresult : reverseRecoveryMovement db recoveryId movementId input actor now with
  | error e => rfl
  | ok r =>
    obtain ⟨hdb, -⟩ | ⟨_, _, _, _, _, _, _, _, hunknown, -⟩ := reverseRecoveryMovement_cases hresult
    · exact hdb
    · rw [hunknown] at hknown
      cases hknown

end Replay

end AtlasErp
