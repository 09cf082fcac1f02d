import AtlasErp.Coverage.System

/-! # Recoveries that are written off

A recovery is written off by a decision; its other statuses follow from what was recovered.

- `RecoveryStatuses`: a recovery is written off, or its status is the one of its amounts;
- `WrittenOffKept`: what is written off stays so;
- `ReversesWrittenOff`: a reversal takes effect on a recovery that is written off;
- `writtenOff_of_run`: the statuses are kept until there is one. -/

namespace AtlasErp

open Lib

/-- The status of each recovery is the decision to write it off, or follows from its amounts. -/
def RecoveryStatuses (db : CoverageDb) : Prop :=
  ∀ r ∈ db.recoveries, r.recoveryStatus ≠ .writtenOff →
    r.recoveryStatus = recoveryStatusFor r.amountRecovered r.amountCoveredByAtlas

/-- What is written off stays so. -/
def WrittenOffKept (db db' : CoverageDb) : Prop :=
  ∀ r ∈ db.recoveries, r.recoveryStatus = .writtenOff →
    ∃ r' ∈ db'.recoveries, r'.id = r.id ∧ r'.recoveryStatus = .writtenOff

/-- A reversal that takes effect on a recovery that is written off: of a payment of it that was not reversed, under a new
reference, which leaves an amount that is not negative. -/
def ReversesWrittenOff (db : CoverageDb) : CoverageRequest → Prop
  | .reverseRecoveryMovement recoveryId movementId input _ _ =>
    ∃ recovery original, db.recoveries.find? recoveryId = some recovery ∧ recovery.recoveryStatus = .writtenOff ∧
      original ∈ db.movements ∧ original.id = movementId ∧ original.recoveryId = recovery.id ∧
      original.movementType = .payment ∧ db.reversalOf original.id = none ∧
      db.movementByReference input.reversalReference = none ∧ 0 ≤ recovery.amountRecovered - original.amount
  | _ => False

theorem recoveryStatusFor_ne_writtenOff (recoveredMinor coveredMinor : Int) :
    recoveryStatusFor recoveredMinor coveredMinor ≠ .writtenOff := by
  unfold recoveryStatusFor
  split
  · exact nofun
  · split <;> exact nofun

/-! ## Steps -/

section Steps

variable {db db' : CoverageDb} {request : CoverageRequest}

/-- What a step does to the recoveries. -/
inductive RecoveryWrite (db : CoverageDb) (request : CoverageRequest) : Table ConsumerRecovery → Prop where
  | same : RecoveryWrite db request db.recoveries
  | born {row : Nat → ConsumerRecovery} (key : ∀ k, (row k).id = k)
      (fresh : ∀ k, (row k).amountRecovered = 0 ∧ (row k).recoveryStatus = .open) :
      RecoveryWrite db request (db.recoveries.create row)
  /-- A movement is recorded, and it is no reversal unless the recovery may be reversed. -/
  | moved {recovery : ConsumerRecovery} {nextMinor : Int} (mem : recovery ∈ db.recoveries)
      (decided : recovery.recoveryStatus = .writtenOff → ReversesWrittenOff db request) :
      RecoveryWrite db request
        (db.recoveries.put (updateRecoveredAmount recovery nextMinor recovery.amountCoveredByAtlas))

theorem RecoveryWrite.of_sameLedger (h : SameLedger db db') : RecoveryWrite db request db'.recoveries := by
  obtain ⟨_, _, _, rfl⟩ := h
  exact .same

theorem RecoveryWrite.of_receive {envelope : CoreEnvelope} {now : Instant} (h : ReceiveStep db envelope now db') :
    RecoveryWrite db request db'.recoveries := by
  cases h with
  | quiet same => exact .of_sameLedger same
  | reported _ _ same | decided _ _ _ _ _ same | createdDecided _ _ _ _ same =>
    obtain ⟨_, _, _, rfl⟩ := same
    exact .same

/-- No other request writes a recovery, except that a settled coverage has one. -/
theorem RecoveryWrite.of_step (h : CoverageStep db request db')
    (happly : ∀ recoveryId input actor now, request ≠ .applyRecoveryPayment recoveryId input actor now)
    (hreverse : ∀ recoveryId movementId input actor now,
      request ≠ .reverseRecoveryMovement recoveryId movementId input actor now) :
    RecoveryWrite db request db'.recoveries := by
  cases h with
  | quiet same => exact .of_sameLedger same
  | approved => exact .born (fun _ => rfl) fun _ => ⟨rfl, rfl⟩
  | received receive => exact .of_receive receive
  | paid => exact absurd rfl (happly _ _ _ _)
  | reversed => exact absurd rfl (hreverse _ _ _ _ _)
  | _ => exact .same

/-- **What any step does to the recoveries.** -/
theorem recoveryWrite_of_step (request : CoverageRequest) :
    RecoveryWrite db request (perform db request).recoveries := by
  cases request with
  | applyRecoveryPayment recoveryId input actor now =>
    show RecoveryWrite db _ (committed db (applyRecoveryPayment db recoveryId input actor now)).recoveries
    cases hresult : applyRecoveryPayment db recoveryId input actor now with
    | error e => exact .same
    | ok r =>
      obtain ⟨hdb, -⟩ | ⟨recovery, hfind, -, hlive, -, -, hrecord⟩ := applyRecoveryPayment_cases hresult
      · rw [committed, hdb]
        exact .same
      · rw [committed, (Prod.mk.inj hrecord).2]
        exact .moved (Table.find?_eq_some.mp hfind).1 fun hwritten => absurd hwritten hlive
  | reverseRecoveryMovement recoveryId movementId input actor now =>
    show RecoveryWrite db _ (committed db (reverseRecoveryMovement db recoveryId movementId input actor now)).recoveries
    cases hresult : reverseRecoveryMovement db recoveryId movementId input actor now with
    | error e => exact .same
    | ok r =>
      obtain ⟨hdb, -⟩ | ⟨recovery, original, hfind, hmem, hid, hown, hpayment, hnot, hunknown, hfits, hrecord⟩ :=
        reverseRecoveryMovement_cases hresult
      · rw [committed, hdb]
        exact .same
      · rw [committed, (Prod.mk.inj hrecord).2]
        exact .moved (Table.find?_eq_some.mp hfind).1 fun hwritten =>
          ⟨recovery, original, hfind, hwritten, hmem, hid, hown, hpayment, hnot, hunknown, hfits⟩
  | _ => exact .of_step (perform_step _) nofun nofun

/-- The recoveries after one of them takes a new amount. -/
theorem mem_put_updateRecoveredAmount {recovery x : ConsumerRecovery} {nextMinor coveredMinor : Int}
    (h : recovery ∈ db.recoveries) : x ∈ db.recoveries.put (updateRecoveredAmount recovery nextMinor coveredMinor) ↔
      x = updateRecoveredAmount recovery nextMinor coveredMinor ∨ x ∈ db.recoveries ∧ x.id ≠ recovery.id :=
  Table.mem_put h (show HasKey.key (updateRecoveredAmount recovery nextMinor coveredMinor) = HasKey.key recovery from rfl)

variable {recoveries : Table ConsumerRecovery}

/-- A status that is written follows from the amounts. -/
theorem RecoveryWrite.statuses (h : RecoveryWrite db request recoveries) (hdb : RecoveryStatuses db) :
    ∀ r ∈ recoveries, r.recoveryStatus ≠ .writtenOff →
      r.recoveryStatus = recoveryStatusFor r.amountRecovered r.amountCoveredByAtlas := by
  intro r hr hlive
  cases h with
  | same => exact hdb r hr hlive
  | born key fresh =>
    rcases (Table.mem_create key).mp hr with hr | rfl
    · exact hdb r hr hlive
    · obtain ⟨hzero, hopen⟩ := fresh db.recoveries.nextKey
      rw [hopen, hzero, recoveryStatusFor, if_pos rfl]
  | moved mem =>
    rcases (mem_put_updateRecoveredAmount mem).mp hr with rfl | ⟨hr, -⟩
    · rfl
    · exact hdb r hr hlive

theorem RecoveryWrite.writtenOff (h : RecoveryWrite db request recoveries) (hok : ¬ ReversesWrittenOff db request)
    {r : ConsumerRecovery} (hr : r ∈ db.recoveries) (hwritten : r.recoveryStatus = .writtenOff) : r ∈ recoveries := by
  cases h with
  | same => exact hr
  | born key => exact Table.mem_create_of_mem key hr
  | @moved recovery _ mem decided =>
    refine (mem_put_updateRecoveredAmount mem).mpr (.inr ⟨hr, fun hid => ?_⟩)
    obtain rfl : r = recovery := Table.eq_of_key_eq hr mem hid
    exact hok (decided hwritten)

/-- **Step.** Statuses that follow from the amounts are kept by every step. -/
theorem RecoveryStatuses.step (h : RecoveryStatuses db) (request : CoverageRequest) :
    RecoveryStatuses (perform db request) :=
  (recoveryWrite_of_step request).statuses h

theorem WrittenOffKept.refl (db : CoverageDb) : WrittenOffKept db db := fun r hr hwritten => ⟨r, hr, rfl, hwritten⟩

theorem WrittenOffKept.trans {db'' : CoverageDb} (h : WrittenOffKept db db') (h' : WrittenOffKept db' db'') :
    WrittenOffKept db db'' := by
  intro r hr hwritten
  obtain ⟨r', hr', hid, hwritten'⟩ := h r hr hwritten
  obtain ⟨r'', hr'', hid', hwritten''⟩ := h' r' hr' hwritten'
  exact ⟨r'', hr'', hid'.trans hid, hwritten''⟩

/-- A reversal on a recovery that is written off gives it the status of its amounts. -/
theorem not_writtenOffKept_of_reverses (h : ReversesWrittenOff db request) :
    ¬ WrittenOffKept db (perform db request) := by
  cases request with
  | reverseRecoveryMovement recoveryId movementId input actor now =>
    obtain ⟨recovery, original, hfind, hwritten, hmem, rfl, hown, hpayment, hnot, hunknown, hfits⟩ := h
    have horiginal : db.movements.findBy (fun m => m.id = original.id ∧ m.recoveryId = recovery.id) = some original :=
      Table.findBy_unique hmem (decide_eq_true ⟨rfl, hown⟩) fun m _ hm => (of_decide_eq_true hm).1
    have hok : reverseRecoveryMovement db recoveryId original.id input actor now =
        .ok (recordMovement db "b2b.recovery.payment_reversed" recovery (recovery.amountRecovered - original.amount)
          (reversalMovement input actor now recovery original)) := by
      have hclash : ¬((db.movementByReference input.reversalReference).isSome = true) := by
        rw [hunknown]
        exact nofun
      simp only [reverseRecoveryMovement, CoverageDb.lockRecovery, hfind, orFail_some, ok_bind, horiginal,
        failIf_of_not (not_not.mpr hpayment), hnot, failIf_of_not hclash, failIf_of_not (not_lt.mpr hfits)]
      rfl
    intro hkept
    have hrecovery := (Table.find?_eq_some.mp hfind).1
    obtain ⟨r', hr', hid, hwritten'⟩ := hkept recovery hrecovery hwritten
    have hrecoveries : (perform db (.reverseRecoveryMovement recoveryId original.id input actor now)).recoveries =
        db.recoveries.put (updateRecoveredAmount recovery (recovery.amountRecovered - original.amount)
          recovery.amountCoveredByAtlas) := by
      show (committed db (reverseRecoveryMovement db recoveryId original.id input actor now)).recoveries = _
      rw [hok]
      rfl
    rw [hrecoveries] at hr'
    rcases (mem_put_updateRecoveredAmount hrecovery).mp hr' with rfl | ⟨-, hne⟩
    · exact recoveryStatusFor_ne_writtenOff _ _ hwritten'
    · exact hne hid
  | _ => exact h.elim

/-- **When a step keeps what is written off.** -/
theorem writtenOffKept_perform_iff : WrittenOffKept db (perform db request) ↔ ¬ ReversesWrittenOff db request :=
  ⟨fun hkept h => not_writtenOffKept_of_reverses h hkept, fun hok r hr hwritten =>
    ⟨r, (recoveryWrite_of_step request).writtenOff hok hr hwritten, rfl, hwritten⟩⟩

end Steps

/-! ## Runs -/

section Runs

variable {db db' : CoverageDb} {requests : List CoverageRequest}

/-- **Until a reversal takes effect on a recovery that is written off**, the statuses are what they should be: in any
run, what is written off stays so, and the other statuses follow from the stored amounts. -/
theorem writtenOff_of_run (hdb : RecoveryStatuses db)
    (hrun : (coverageSystem RecoveryStatuses).Run (fun db request => ¬ ReversesWrittenOff db request) db requests db') :
    WrittenOffKept db db' ∧ RecoveryStatuses db' ∧
      ∀ request, WrittenOffKept db' (perform db' request) ↔ ¬ ReversesWrittenOff db' request := by
  refine ⟨?_, ?_, fun _ => writtenOffKept_perform_iff⟩
  · refine Machine.Run.relates (P := fun _ => True) WrittenOffKept.refl WrittenOffKept.trans (fun _ _ _ _ _ _ => trivial)
      (fun s a s' hok hstep _ => ?_) hrun trivial
    obtain rfl : perform s a = s' := Option.some.inj hstep
    exact writtenOffKept_perform_iff.mpr hok
  · refine Machine.Run.preserves (fun s a s' _ hstep hs => ?_) hrun hdb
    obtain rfl : perform s a = s' := Option.some.inj hstep
    exact hs.step a

/-- Two recoveries: of the first, 40.00 of 100.00 were recovered before it was written off; the second is open. -/
def castigos : CoverageDb where
  contractVersions := .empty
  purchases := .empty
  coreLinks := []
  files := []
  installments := .empty
  notices := .empty
  payables := .empty
  settlements := .empty
  recoveries := ⟨[⟨1, 5, 1, 1, 1, 10000, 4000, none, .writtenOff, "BOB"⟩, ⟨2, 5, 1, 2, 2, 5000, 0, none, .open, "BOB"⟩],
    by decide⟩
  movements := ⟨[⟨1, 1, 1, .payment, "P-1", 4000, "BOB", none, 0, none, none⟩], by decide⟩
  reviewItems := .empty
  inbox := ⟨[], []⟩
  exceptions := []
  outbox := []
  actionLog := []

theorem castigos_statuses : RecoveryStatuses castigos := by
  have hall : ∀ r ∈ castigos.recoveries.rows, r.recoveryStatus ≠ .writtenOff →
      r.recoveryStatus = recoveryStatusFor r.amountRecovered r.amountCoveredByAtlas := by decide
  exact hall

/-- The payment of the first recovery is reversed, and it is open again. -/
theorem writtenOff_counterexample : ¬ ∀ db requests db', RecoveryStatuses db →
    (coverageSystem RecoveryStatuses).Run (fun _ _ => True) db requests db' →
      WrittenOffKept db db' ∧ RecoveryStatuses db' := by
  intro h
  obtain ⟨hkept, -⟩ := h castigos [.reverseRecoveryMovement 1 1 ⟨"R-1", "Devolución"⟩ ⟨7⟩ 0] _ castigos_statuses
    (.cons trivial rfl (.nil _))
  have hall : ∃ r ∈ castigos.recoveries.rows, r.recoveryStatus = .writtenOff ∧
      ∀ r' ∈ (perform castigos (.reverseRecoveryMovement 1 1 ⟨"R-1", "Devolución"⟩ ⟨7⟩ 0)).recoveries.rows,
        r'.id = r.id → r'.recoveryStatus ≠ .writtenOff := by decide
  obtain ⟨r, hr, hwritten, hnone⟩ := hall
  obtain ⟨r', hr', hid, hwritten'⟩ := hkept r hr hwritten
  exact hnone r' hr' hid hwritten'

/-- A payment of each recovery, and the reversal of the one that is accepted. -/
def cobrosYReverso : List CoverageRequest :=
  [.applyRecoveryPayment 1 ⟨⟨1000, by decide⟩, "P-2", "BOB", none⟩ none 0,
    .applyRecoveryPayment 2 ⟨⟨2000, by decide⟩, "P-3", "BOB", none⟩ none 0,
    .reverseRecoveryMovement 2 2 ⟨"R-3", "Devolución"⟩ ⟨7⟩ 0]

theorem writtenOff_of_run_cobros :
    (cobrosYReverso.foldl perform castigos).movements.rows.length = 3 ∧
      WrittenOffKept castigos (cobrosYReverso.foldl perform castigos) ∧
      RecoveryStatuses (cobrosYReverso.foldl perform castigos) := by
  have hopen : ¬ ReversesWrittenOff ((cobrosYReverso.take 2).foldl perform castigos)
      (.reverseRecoveryMovement 2 2 ⟨"R-3", "Devolución"⟩ ⟨7⟩ 0) := by
    rintro ⟨recovery, original, hfind, hwritten, -⟩
    have hfound : ∀ r ∈ ((cobrosYReverso.take 2).foldl perform castigos).recoveries.find? 2,
        r.recoveryStatus ≠ .writtenOff := by decide
    exact hfound recovery hfind hwritten
  obtain ⟨hkept, hstatuses, -⟩ := @writtenOff_of_run castigos _ cobrosYReverso castigos_statuses
    (.cons id rfl (.cons id rfl (.cons hopen rfl (.nil _))))
  exact ⟨by decide, hkept, hstatuses⟩

end Runs

end AtlasErp
