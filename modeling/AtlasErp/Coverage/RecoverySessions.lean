import AtlasErp.Coverage.RecoveryLedger
import AtlasErp.Lib.ReadCommitted

/-! # Concurrent recoveries

Payments and reversals as transactions that interleave statement by statement.  A recovery is locked
first, and the unique indexes on the reference and on the reversed movement make a second insert wait.
The rest of coverage takes one step each: it neither writes an existing recovery nor a movement.

- `recoveryProgram`: the statements of both operations;
- `recoverySessions_refine`: whatever the interleaving, what is committed is what some order of the
  requests commits;
- `recovery_ledger`: every interleaving keeps the books, and a repeated reference changes nothing. -/

namespace AtlasErp

open Lib

/-- What the transactions lock: a recovery, and keys of the two unique indexes on movements. -/
inductive RecoveryLock where
  | recovery (id : Nat)
  | reference (reference : String)
  | reversal (movementId : Nat)
  deriving DecidableEq

/-- How far a transaction got. -/
inductive RecoveryPoint where
  /-- Another request of coverage. -/
  | whole (request : CoverageRequest)
  | applying (recoveryId : Nat) (input : ApplyRecoveryPaymentDto) (actor : Option CoverageActor)
      (now : Instant)
  | applyLocked (recovery : ConsumerRecovery) (input : ApplyRecoveryPaymentDto)
      (actor : Option CoverageActor) (now : Instant)
  /-- No movement had the reference when it was looked for. -/
  | applyNew (recovery : ConsumerRecovery) (input : ApplyRecoveryPaymentDto)
      (actor : Option CoverageActor) (now : Instant)
  | applied (recovery : ConsumerRecovery) (input : ApplyRecoveryPaymentDto)
      (actor : Option CoverageActor) (now : Instant)
  | reversing (recoveryId movementId : Nat) (input : ReverseRecoveryMovementDto)
      (actor : CoverageActor) (now : Instant)
  | reverseLocked (recovery : ConsumerRecovery) (movementId : Nat)
      (input : ReverseRecoveryMovementDto) (actor : CoverageActor) (now : Instant)
  | reverseRead (recovery : ConsumerRecovery) (original : ConsumerRecoveryMovement)
      (input : ReverseRecoveryMovementDto) (actor : CoverageActor) (now : Instant)
  /-- The movement had no reversal when it was looked for. -/
  | reverseNew (recovery : ConsumerRecovery) (original : ConsumerRecoveryMovement)
      (input : ReverseRecoveryMovementDto) (actor : CoverageActor) (now : Instant)
  | reversed (recovery : ConsumerRecovery) (original : ConsumerRecoveryMovement)
      (input : ReverseRecoveryMovementDto) (actor : CoverageActor) (now : Instant)
  deriving DecidableEq

namespace RecoveryPoint

/-- The point at which a request begins. -/
def start : CoverageRequest → RecoveryPoint
  | .applyRecoveryPayment recoveryId input actor now => .applying recoveryId input actor now
  | .reverseRecoveryMovement recoveryId movementId input actor now =>
    .reversing recoveryId movementId input actor now
  | request => .whole request

/-- The request behind a point. -/
def request : RecoveryPoint → CoverageRequest
  | .whole request => request
  | .applying recoveryId input actor now => .applyRecoveryPayment recoveryId input actor now
  | .applyLocked recovery input actor now | .applyNew recovery input actor now
  | .applied recovery input actor now => .applyRecoveryPayment recovery.id input actor now
  | .reversing recoveryId movementId input actor now =>
    .reverseRecoveryMovement recoveryId movementId input actor now
  | .reverseLocked recovery movementId input actor now =>
    .reverseRecoveryMovement recovery.id movementId input actor now
  | .reverseRead recovery original input actor now | .reverseNew recovery original input actor now
  | .reversed recovery original input actor now =>
    .reverseRecoveryMovement recovery.id original.id input actor now

/-- The locks held at a point. -/
def locks : RecoveryPoint → List RecoveryLock
  | .whole _ | .applying .. | .reversing .. => []
  | .applyLocked recovery .. | .applyNew recovery .. | .reverseLocked recovery ..
  | .reverseRead recovery .. | .reverseNew recovery .. => [.recovery recovery.id]
  | .applied recovery input _ _ => [.recovery recovery.id, .reference input.paymentReference]
  | .reversed recovery original input _ _ =>
    [.recovery recovery.id, .reference input.reversalReference, .reversal original.id]

/-- What was written up to a point. -/
def writes : RecoveryPoint → CoverageDb → CoverageDb
  | .whole request, db => perform db request
  | .applied recovery input actor now, db =>
    (recordMovement db "b2b.recovery.payment_applied" recovery
      (recovery.amountRecovered + input.amount.val) (paymentMovement input actor now recovery)).2
  | .reversed recovery original input actor now, db =>
    (recordMovement db "b2b.recovery.payment_reversed" recovery
      (recovery.amountRecovered - original.amount)
      (reversalMovement input actor now recovery original)).2
  | _, db => db

/-- A payment passes the checks between the look-up of its reference and the insert. -/
def paymentFits (recovery : ConsumerRecovery) (input : ApplyRecoveryPaymentDto) : Bool :=
  input.currency = recovery.currency ∧ recovery.recoveryStatus ≠ .writtenOff ∧
    recovery.amountRecovered + input.amount.val ≤ recovery.amountCoveredByAtlas

/-- The next statement.  An error of the operation, or of a unique index, rolls back. -/
def next : RecoveryPoint → CoverageDb → Next RecoveryPoint
  | .whole _, _ => .commit
  | .applying recoveryId input actor now, db =>
    match db.recoveries.find? recoveryId with
    | some recovery => .goto (.applyLocked recovery input actor now)
    | none => .rollback
  | .applyLocked recovery input actor now, db =>
    match db.movementByReference input.paymentReference with
    | some existing => if isSameRecoveryPayment existing recovery.id input then .commit else .rollback
    | none => .goto (.applyNew recovery input actor now)
  | .applyNew recovery input actor now, db =>
    if paymentFits recovery input ∧ (db.movementByReference input.paymentReference).isNone then
      .goto (.applied recovery input actor now)
    else .rollback
  | .applied .., _ => .commit
  | .reversing recoveryId movementId input actor now, db =>
    match db.recoveries.find? recoveryId with
    | some recovery => .goto (.reverseLocked recovery movementId input actor now)
    | none => .rollback
  | .reverseLocked recovery movementId input actor now, db =>
    match db.movements.findBy (fun m => m.id = movementId ∧ m.recoveryId = recovery.id) with
    | some original =>
      if original.movementType = .payment then .goto (.reverseRead recovery original input actor now)
      else .rollback
    | none => .rollback
  | .reverseRead recovery original input actor now, db =>
    match db.reversalOf original.id with
    | some previous => if previous.paymentReference = input.reversalReference then .commit else .rollback
    | none =>
      if (db.movementByReference input.reversalReference).isSome then .rollback
      else .goto (.reverseNew recovery original input actor now)
  | .reverseNew recovery original input actor now, db =>
    if 0 ≤ recovery.amountRecovered - original.amount ∧
        (db.movementByReference input.reversalReference).isNone ∧
        (db.reversalOf original.id).isNone then
      .goto (.reversed recovery original input actor now)
    else .rollback
  | .reversed .., _ => .commit

/-- The statements that lead on, with what they found. -/
inductive Leads (db : CoverageDb) : RecoveryPoint → RecoveryPoint → Prop where
  | applyLock {recoveryId recovery input actor now}
      (recovery_eq : db.recoveries.find? recoveryId = some recovery) :
      Leads db (.applying recoveryId input actor now) (.applyLocked recovery input actor now)
  | applyLook {recovery input actor now} :
      Leads db (.applyLocked recovery input actor now) (.applyNew recovery input actor now)
  | applyInsert {recovery input actor now} (fits : paymentFits recovery input = true)
      (unknown : db.movementByReference input.paymentReference = none) :
      Leads db (.applyNew recovery input actor now) (.applied recovery input actor now)
  | reverseLock {recoveryId recovery movementId input actor now}
      (recovery_eq : db.recoveries.find? recoveryId = some recovery) :
      Leads db (.reversing recoveryId movementId input actor now)
        (.reverseLocked recovery movementId input actor now)
  | reverseLook {recovery movementId original input actor now}
      (original_eq : db.movements.findBy
        (fun m => m.id = movementId ∧ m.recoveryId = recovery.id) = some original)
      (payment : original.movementType = .payment) :
      Leads db (.reverseLocked recovery movementId input actor now)
        (.reverseRead recovery original input actor now)
  | reverseCheck {recovery original input actor now} :
      Leads db (.reverseRead recovery original input actor now)
        (.reverseNew recovery original input actor now)
  | reverseInsert {recovery original input actor now}
      (fits : 0 ≤ recovery.amountRecovered - original.amount)
      (unknown : db.movementByReference input.reversalReference = none)
      (not_reversed : db.reversalOf original.id = none) :
      Leads db (.reverseNew recovery original input actor now)
        (.reversed recovery original input actor now)

theorem leads_of_next {db : CoverageDb} {p p' : RecoveryPoint} (h : p.next db = .goto p') :
    Leads db p p' := by
  cases p with
  | whole | applied | reversed => cases h
  | applying recoveryId input actor now =>
    simp only [next] at h
    split at h
    · rename_i hfind
      obtain rfl := Next.goto.inj h
      exact .applyLock hfind
    · cases h
  | applyLocked recovery input actor now =>
    simp only [next] at h
    split at h
    · split at h <;> cases h
    · obtain rfl := Next.goto.inj h
      exact .applyLook
  | applyNew recovery input actor now =>
    simp only [next] at h
    split at h
    · rename_i hchecks
      obtain rfl := Next.goto.inj h
      exact .applyInsert hchecks.1 (Option.isNone_iff_eq_none.mp hchecks.2)
    · cases h
  | reversing recoveryId movementId input actor now =>
    simp only [next] at h
    split at h
    · rename_i hfind
      obtain rfl := Next.goto.inj h
      exact .reverseLock hfind
    · cases h
  | reverseLocked recovery movementId input actor now =>
    simp only [next] at h
    split at h
    · rename_i hfind
      split at h
      · rename_i hpayment
        obtain rfl := Next.goto.inj h
        exact .reverseLook hfind hpayment
      · cases h
    · cases h
  | reverseRead recovery original input actor now =>
    simp only [next] at h
    split at h
    · split at h <;> cases h
    · split at h
      · cases h
      · obtain rfl := Next.goto.inj h
        exact .reverseCheck
  | reverseNew recovery original input actor now =>
    simp only [next] at h
    split at h
    · rename_i hchecks
      obtain rfl := Next.goto.inj h
      exact .reverseInsert hchecks.1 (Option.isNone_iff_eq_none.mp hchecks.2.1)
        (Option.isNone_iff_eq_none.mp hchecks.2.2)
    · cases h

end RecoveryPoint

/-- Payments and reversals, statement by statement. -/
def recoveryProgram : Program CoverageDb CoverageRequest RecoveryLock RecoveryPoint where
  start := RecoveryPoint.start
  locks := RecoveryPoint.locks
  writes := RecoveryPoint.writes
  next := RecoveryPoint.next
  locks_start request := by cases request <;> rfl
  locks_next {p p' db} h k hk := by
    cases RecoveryPoint.leads_of_next h with
    | applyLock | reverseLock => cases hk
    | applyLook | reverseLook | reverseCheck => exact hk
    | applyInsert | reverseInsert =>
      rw [List.mem_singleton.mp hk]
      exact List.mem_cons_self

/-! ## The discipline of the locks -/

/-- What a lock protects. -/
def RecoveryLock.keeps : RecoveryLock → CoverageDb → CoverageDb → Prop
  | .recovery id, db, db' =>
    (∀ r, db.recoveries.find? id = some r → db'.recoveries.find? id = some r) ∧
      ∀ m ∈ db.movements, m ∈ db'.movements
  | .reference text, db, db' => db.movementByReference text = none → db'.movementByReference text = none
  | .reversal movementId, db, db' =>
    db.reversalOf movementId = none → db'.reversalOf movementId = none

/-- Coverage requests other than payments and reversals. -/
def CoverageRequest.isRecovery : CoverageRequest → Bool
  | .applyRecoveryPayment .. | .reverseRecoveryMovement .. => true
  | _ => false

/-- The payment a reversal compensates, as it was read. -/
structure ReadOriginal (db : CoverageDb) (recovery : ConsumerRecovery)
    (original : ConsumerRecoveryMovement) : Prop where
  recovery_eq : db.recoveries.find? recovery.id = some recovery
  original_mem : original ∈ db.movements
  own : original.recoveryId = recovery.id
  payment : original.movementType = .payment

/-- What a transaction relies on at a point. -/
def RecoveryPoint.reliesOn : RecoveryPoint → CoverageDb → Prop
  | .whole request, _ => request.isRecovery = false
  | .applying .., _ | .reversing .., _ => True
  | .applyLocked recovery .., db | .applyNew recovery .., db | .reverseLocked recovery .., db =>
    db.recoveries.find? recovery.id = some recovery
  | .applied recovery input _ _, db =>
    db.recoveries.find? recovery.id = some recovery ∧ paymentFits recovery input = true ∧
      db.movementByReference input.paymentReference = none
  | .reverseRead recovery original .., db | .reverseNew recovery original .., db =>
    ReadOriginal db recovery original
  | .reversed recovery original input _ _, db =>
    ReadOriginal db recovery original ∧ 0 ≤ recovery.amountRecovered - original.amount ∧
      db.movementByReference input.reversalReference = none ∧ db.reversalOf original.id = none

section Discipline

variable {db db' : CoverageDb}

/-- The rest of coverage leaves the recoveries that exist and the movements as they are. -/
theorem CoverageStep.keepsRecoveries {request : CoverageRequest} (h : CoverageStep db request db')
    (hother : request.isRecovery = false) :
    (∀ id r, db.recoveries.find? id = some r → db'.recoveries.find? id = some r) ∧
      db'.movements = db.movements := by
  have hsame : ∀ {db db' : CoverageDb}, SameLedger db db' →
      db'.recoveries = db.recoveries ∧ db'.movements = db.movements := by
    rintro db db' ⟨_, _, _, rfl⟩
    exact ⟨rfl, rfl⟩
  cases h with
  | quiet same => exact ⟨fun _ _ h => (hsame same).1 ▸ h, (hsame same).2⟩
  | scheduled | cancelled | registered | rejected | reviewed | swept => exact ⟨fun _ _ h => h, rfl⟩
  | approved => exact ⟨fun _ _ h => Table.find?_create (fun _ => rfl) h, rfl⟩
  | paid | reversed => cases hother
  | received hreceive =>
    cases hreceive with
    | quiet same => exact ⟨fun _ _ h => (hsame same).1 ▸ h, (hsame same).2⟩
    | reported _ _ same => exact ⟨fun _ _ h => (hsame same).1 ▸ h, (hsame same).2⟩
    | decided _ _ _ _ _ same => exact ⟨fun _ _ h => (hsame same).1 ▸ h, (hsame same).2⟩
    | createdDecided _ _ _ _ same => exact ⟨fun _ _ h => (hsame same).1 ▸ h, (hsame same).2⟩

theorem CoverageStep.keepsLocks {request : CoverageRequest} (h : CoverageStep db request db')
    (hother : request.isRecovery = false) (k : RecoveryLock) : k.keeps db db' := by
  obtain ⟨hrecoveries, hmovements⟩ := h.keepsRecoveries hother
  cases k with
  | recovery id => exact ⟨hrecoveries id, fun m hm => hmovements ▸ hm⟩
  | reference text =>
    intro hnone
    rwa [CoverageDb.movementByReference, hmovements]
  | reversal movementId =>
    intro hnone
    rwa [CoverageDb.reversalOf, hmovements]

theorem RecoveryLock.keeps_refl (k : RecoveryLock) (db : CoverageDb) : k.keeps db db := by
  cases k with
  | recovery id => exact ⟨fun _ h => h, fun _ h => h⟩
  | reference | reversal => exact id

/-- A movement disturbs only its recovery, its reference and the movement it reverses. -/
theorem recordMovement_keeps {recovery : ConsumerRecovery} {topic : String} {nextMinor : Int}
    {row : Nat → ConsumerRecoveryMovement} (hid : ∀ k, (row k).id = k) {k : RecoveryLock}
    (hrecovery : k ≠ .recovery recovery.id)
    (hreference : ∀ n, k ≠ .reference (row n).paymentReference)
    (hreversal : ∀ n id, (row n).reversesMovementId = some id → k ≠ .reversal id) :
    k.keeps db (recordMovement db topic recovery nextMinor row).2 := by
  have hcreate := fun {x} => @Table.mem_create _ _ db.movements row hid x
  cases k with
  | recovery id =>
    refine ⟨fun r hr => ?_, fun m hm => hcreate.mpr (.inl hm)⟩
    have hne : id ≠ recovery.id := fun heq => hrecovery (heq ▸ rfl)
    exact (Table.find?_put_ne hne).trans hr
  | reference text =>
    intro hnone
    refine Table.findBy_eq_none.mpr fun m hm => ?_
    rcases hcreate.mp hm with hm | rfl
    · exact Table.findBy_eq_none.mp hnone m hm
    · exact decide_eq_false fun heq => hreference _ (congrArg RecoveryLock.reference heq.symm)
  | reversal id =>
    intro hnone
    refine Table.findBy_eq_none.mpr fun m hm => ?_
    rcases hcreate.mp hm with hm | rfl
    · exact Table.findBy_eq_none.mp hnone m hm
    · exact decide_eq_false fun heq => hreversal _ id heq rfl

/-- What a transaction wrote disturbs nothing but what it locked. -/
theorem RecoveryPoint.writes_keeps {p : RecoveryPoint} (hp : p.reliesOn db) {k : RecoveryLock}
    (hk : k ∉ p.locks) : k.keeps db (p.writes db) := by
  cases p with
  | whole request => exact (perform_step request).keepsLocks hp k
  | applied recovery input actor now =>
    simp only [locks, List.mem_cons, not_or] at hk
    exact recordMovement_keeps (fun _ => rfl) hk.1 (fun _ => hk.2.1) nofun
  | reversed recovery original input actor now =>
    simp only [locks, List.mem_cons, not_or] at hk
    refine recordMovement_keeps (fun _ => rfl) hk.1 (fun _ => hk.2.1) fun _ id hid => ?_
    obtain rfl : original.id = id := Option.some.inj hid
    exact hk.2.2.1
  | _ => exact k.keeps_refl db

/-- What a transaction relies on is under its locks. -/
theorem RecoveryPoint.reliesOn_of_keeps {p : RecoveryPoint} (hp : p.reliesOn db)
    (hkeeps : ∀ k ∈ p.locks, k.keeps db db') : p.reliesOn db' := by
  have hread : ∀ {recovery original}, ReadOriginal db recovery original →
      (RecoveryLock.recovery recovery.id).keeps db db' → ReadOriginal db' recovery original :=
    fun h hk => ⟨hk.1 _ h.recovery_eq, hk.2 _ h.original_mem, h.own, h.payment⟩
  cases p with
  | whole | applying | reversing => exact hp
  | applyLocked | applyNew | reverseLocked => exact (hkeeps _ List.mem_cons_self).1 _ hp
  | applied recovery input =>
    obtain ⟨hrecovery, hfits, hunknown⟩ := hp
    have hreference := hkeeps (.reference input.paymentReference) (by simp [locks])
    exact ⟨(hkeeps _ List.mem_cons_self).1 _ hrecovery, hfits, hreference hunknown⟩
  | reverseRead | reverseNew => exact hread hp (hkeeps _ List.mem_cons_self)
  | reversed recovery original input =>
    obtain ⟨horiginal, hfits, hunknown, hnot⟩ := hp
    have hreference := hkeeps (.reference input.reversalReference) (by simp [locks])
    have hreversal := hkeeps (.reversal original.id) (by simp [locks])
    exact ⟨hread horiginal (hkeeps _ List.mem_cons_self), hfits, hreference hunknown, hreversal hnot⟩

/-- A statement that leads on establishes what the next point relies on. -/
theorem RecoveryPoint.reliesOn_of_leads {p p' : RecoveryPoint} (hp : p.reliesOn db)
    (h : Leads db p p') : p'.reliesOn db := by
  cases h with
  | applyLock hfind | reverseLock hfind =>
    obtain ⟨-, rfl⟩ := Table.find?_eq_some.mp hfind
    exact hfind
  | applyLook | reverseCheck => exact hp
  | applyInsert hfits hunknown => exact ⟨hp, hfits, hunknown⟩
  | reverseLook horiginal hpayment =>
    obtain ⟨hmem, hwhere⟩ := Table.findBy_eq_some horiginal
    exact ⟨hp, hmem, (of_decide_eq_true hwhere).2, hpayment⟩
  | reverseInsert hfits hunknown hnot => exact ⟨hp, hfits, hunknown, hnot⟩

end Discipline

/-! ## What is committed -/

section Refinement

variable {db : CoverageDb}

/-- A payment that passes every check records its movement. -/
theorem perform_applyRecoveryPayment {recovery : ConsumerRecovery} {input : ApplyRecoveryPaymentDto}
    (hrecovery : db.recoveries.find? recovery.id = some recovery)
    (hfits : RecoveryPoint.paymentFits recovery input = true)
    (hunknown : db.movementByReference input.paymentReference = none)
    (actor : Option CoverageActor) (now : Instant) :
    perform db (.applyRecoveryPayment recovery.id input actor now) =
      (RecoveryPoint.applied recovery input actor now).writes db := by
  obtain ⟨hcurrency, hwritten, hover⟩ := of_decide_eq_true hfits
  have hok : applyRecoveryPayment db recovery.id input actor now =
      .ok (recordMovement db "b2b.recovery.payment_applied" recovery
        (recovery.amountRecovered + input.amount.val) (paymentMovement input actor now recovery)) := by
    simp only [applyRecoveryPayment, CoverageDb.lockRecovery, hrecovery, orFail_some, ok_bind, hunknown,
      failIf_of_not (not_not.mpr hcurrency), failIf_of_not hwritten, failIf_of_not (not_lt.mpr hover)]
    rfl
  change committed db (applyRecoveryPayment db recovery.id input actor now) = _
  rw [hok]
  rfl

/-- A reversal that passes every check records its movement. -/
theorem perform_reverseRecoveryMovement {recovery : ConsumerRecovery}
    {original : ConsumerRecoveryMovement} {input : ReverseRecoveryMovementDto}
    (horiginal : ReadOriginal db recovery original)
    (hfits : 0 ≤ recovery.amountRecovered - original.amount)
    (hunknown : db.movementByReference input.reversalReference = none)
    (hnot : db.reversalOf original.id = none) (actor : CoverageActor) (now : Instant) :
    perform db (.reverseRecoveryMovement recovery.id original.id input actor now) =
      (RecoveryPoint.reversed recovery original input actor now).writes db := by
  obtain ⟨hrecovery, hmem, hown, hpayment⟩ := horiginal
  have hfind : db.movements.findBy (fun m => m.id = original.id ∧ m.recoveryId = recovery.id) =
      some original :=
    Table.findBy_unique hmem (decide_eq_true ⟨rfl, hown⟩) fun x _ hx => (of_decide_eq_true hx).1
  have hnoclash : ¬(db.movementByReference input.reversalReference).isSome = true := by simp [hunknown]
  have hok : reverseRecoveryMovement db recovery.id original.id input actor now =
      .ok (recordMovement db "b2b.recovery.payment_reversed" recovery
        (recovery.amountRecovered - original.amount)
        (reversalMovement input actor now recovery original)) := by
    simp only [reverseRecoveryMovement, CoverageDb.lockRecovery, hrecovery, orFail_some, ok_bind, hfind,
      hnot, failIf_of_not (not_not.mpr hpayment), failIf_of_not hnoclash, failIf_of_not (not_lt.mpr hfits)]
    rfl
  change committed db (reverseRecoveryMovement db recovery.id original.id input actor now) = _
  rw [hok]
  rfl

/-- The databases that some order of the requests commits. -/
def SeriallyReached (db : CoverageDb) : Prop :=
  (coverageSystem FreshRecoveries).Reachable (fun _ _ => True) db

/-- A transaction commits what its request, performed alone, would have committed, or nothing. -/
theorem RecoveryPoint.writes_eq {p : RecoveryPoint} (hp : p.reliesOn db) :
    p.writes db = db ∨ p.writes db = perform db p.request := by
  cases p with
  | whole request => exact .inr rfl
  | applied recovery input actor now =>
    obtain ⟨hrecovery, hfits, hunknown⟩ := hp
    exact .inr (perform_applyRecoveryPayment hrecovery hfits hunknown actor now).symm
  | reversed recovery original input actor now =>
    obtain ⟨horiginal, hfits, hunknown, hnot⟩ := hp
    exact .inr (perform_reverseRecoveryMovement horiginal hfits hunknown hnot actor now).symm
  | _ => exact .inl rfl

theorem recoveryProgram_disciplined :
    recoveryProgram.Disciplined SeriallyReached RecoveryPoint.reliesOn RecoveryLock.keeps where
  start request db _ := by cases request <;> trivial
  goto {p p' db} _ hp h := by
    have hview : p.writes db = db := by cases p <;> first | rfl | cases h
    rw [show recoveryProgram.writes p db = db from hview] at h
    exact RecoveryPoint.reliesOn_of_leads hp (RecoveryPoint.leads_of_next h)
  commit {p db} hreached hp _ := by
    change SeriallyReached (p.writes db)
    rcases RecoveryPoint.writes_eq hp with hsame | hperform
    · rwa [hsame]
    · rw [hperform]
      exact Reachable.perform hreached trivial
  guarded _ hp _ _ hk := RecoveryPoint.writes_keeps hp hk
  locked hkeeps hp := RecoveryPoint.reliesOn_of_keeps hp hkeeps

/-- Payments, reversals and the rest of coverage, in any interleaving. -/
def recoverySessions : Machine (Sessions CoverageDb RecoveryPoint) (Act CoverageRequest) :=
  recoveryProgram.machine FreshRecoveries

variable {S S' : Sessions CoverageDb RecoveryPoint}

/-- **Refinement.** Whatever the interleaving, what is committed is what some order of the requests
commits. -/
theorem recoverySessions_refine (h : recoverySessions.Reachable (fun _ _ => True) S) :
    SeriallyReached S.committed :=
  (Program.serves recoveryProgram_disciplined (fun _ hfresh => .of_init hfresh) h).1

/-- The reference a request brings. -/
def CoverageRequest.reference? : CoverageRequest → Option String
  | .applyRecoveryPayment _ input _ _ => some input.paymentReference
  | .reverseRecoveryMovement _ _ input _ _ => some input.reversalReference
  | _ => none

theorem perform_again {request : CoverageRequest} {text : String} (href : request.reference? = some text)
    (hknown : db.knowsReference text) : perform db request = db := by
  cases request with
  | applyRecoveryPayment recoveryId input actor now =>
    obtain rfl : input.paymentReference = text := Option.some.inj href
    exact applyRecoveryPayment_again recoveryId input actor now hknown
  | reverseRecoveryMovement recoveryId movementId input actor now =>
    obtain rfl : input.reversalReference = text := Option.some.inj href
    exact reverseRecoveryMovement_again recoveryId movementId input actor now hknown
  | _ => cases href

/-- **The recovery ledger.** In every interleaving the amount recovered is what was paid less what was
reversed, between zero and what was covered; a payment is reversed at most once; and no statement of a
transaction whose reference some movement already holds changes anything that is committed. -/
theorem recovery_ledger (h : recoverySessions.Reachable (fun _ _ => True) S) :
    (∀ r ∈ S.committed.recoveries,
      r.amountRecovered = paymentsOf S.committed r.id - reversalsOf S.committed r.id ∧
      0 ≤ r.amountRecovered ∧ r.amountRecovered ≤ r.amountCoveredByAtlas) ∧
    (∀ m ∈ S.committed.movements, ∀ m' ∈ S.committed.movements, m.reversesMovementId ≠ none →
      m.reversesMovementId = m'.reversesMovementId → m = m') ∧
    (∀ t p text, S.find? t = some p → p.request.reference? = some text →
      S.committed.knowsReference text → recoverySessions.step S (.advance t) = some S' →
      S'.committed = S.committed) := by
  obtain ⟨hreached, hrelies⟩ :=
    Program.serves recoveryProgram_disciplined (fun _ hfresh => Machine.Reachable.of_init hfresh) h
  have hbooks : RecoveryBooks S.committed := recoveryBooks_of_reachable hreached
  refine ⟨fun r hr => ⟨hbooks.balance r hr, hbooks.bounds r hr⟩, hbooks.one_reversal, ?_⟩
  intro t p text hfind href hknown hstep
  rcases Program.committed_advance hfind hstep with hsame | ⟨-, hcommit⟩
  · exact hsame
  · have hp : p.reliesOn S.committed := hrelies _ (S.mem_of_find? hfind)
    rw [hcommit]
    change p.writes S.committed = S.committed
    rcases RecoveryPoint.writes_eq hp with hsame | hperform
    · exact hsame
    · rw [hperform, perform_again href hknown]

end Refinement

/-! ## One payment sent twice -/

section Example

/-- A recovery of 100.00 on which nothing was recovered. -/
def recoveryPlan : CoverageDb where
  contractVersions := ⟨[⟨1, 1, .active, 1⟩], oneVersion_nodup⟩
  purchases := ⟨[⟨1, 9, 5, 1, .confirmed⟩], onePurchase_nodup⟩
  coreLinks := []
  files := []
  installments := ⟨[⟨1, 1, 20000, 10000, .coveredByAtlas, none⟩], by decide⟩
  notices := .empty
  payables := .empty
  settlements := .empty
  recoveries := ⟨[⟨1, 5, 1, 1, 1, 10000, 0, none, .open, "BOB"⟩], by decide⟩
  movements := .empty
  reviewItems := .empty
  inbox := ⟨[], []⟩
  exceptions := []
  outbox := []
  actionLog := []

/-- A payment of 60.00. -/
def paymentOf60 : CoverageRequest :=
  .applyRecoveryPayment 1 ⟨⟨6000, by decide⟩, "PAY-1", "BOB", none⟩ none 1728900000000

/-- Two copies of the payment arrive together; when the first is recorded, the second takes the lock. -/
def sentTwice : Sessions CoverageDb RecoveryPoint :=
  recoverySessions.after ⟨recoveryPlan, []⟩ [.start 1 paymentOf60, .start 2 paymentOf60, .advance 1,
    .advance 1, .advance 1, .advance 1, .advance 2]

theorem recoveryPlan_fresh : FreshRecoveries recoveryPlan := by
  refine ⟨fun r hr => ?_, rfl, fun s hs => absurd hs (Table.not_mem_empty s)⟩
  obtain rfl := List.mem_singleton.mp hr
  decide

/-- The second copy finds the reference and changes nothing. -/
theorem recovery_ledger_sentTwice :
    sentTwice.committed.recoveries.rows.map (·.amountRecovered) = [6000] ∧
      ∃ S', recoverySessions.step sentTwice (.advance 2) = some S' ∧ S'.committed = sentTwice.committed := by
  have hreached : recoverySessions.Reachable (fun _ _ => True) sentTwice :=
    recoverySessions.reachable_after ⟨recoveryPlan_fresh, rfl⟩ _
  have hstep : (recoverySessions.step sentTwice (.advance 2)).isSome = true := by decide
  obtain ⟨S', hS'⟩ := Option.isSome_iff_exists.mp hstep
  have hfind : (sentTwice.find? 2).map (·.request.reference?) = some (some "PAY-1") := by decide
  obtain ⟨p, hp, href⟩ := Option.map_eq_some_iff.mp hfind
  have hknown : sentTwice.committed.movements.rows.map (·.paymentReference) = ["PAY-1"] := by
    decide
  obtain ⟨m, hm, htext⟩ := List.mem_map.mp (hknown ▸ List.mem_singleton.mpr rfl)
  exact ⟨by decide, S', hS', (recovery_ledger hreached).2.2 2 p "PAY-1" hp href ⟨m, hm, htext⟩ hS'⟩

end Example

end AtlasErp
