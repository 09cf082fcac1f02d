import AtlasErp.Ads.EmailMessaging

/-! # Advertising: suppressed addresses

A suppression is read when a message is queued; neither a message that waits nor one that is tried again is checked.

- `SuppressesNothingWaiting`: the condition on a step;
- `SuppressionBooks`: no message that waits goes to a suppressed address;
- `suppression_honoured`: every interleaving that meets the condition;
- `suppression_counterexample`: a message for later, and a suppression before it is due. -/

namespace AtlasErp

open Lib

/-! ## The property and the condition -/

/-- Its address had no active suppression, in any letter case, before the message was claimed. -/
def HandedMail.Free (mail : HandedMail) : Prop :=
  ∀ address ∈ mail.suppressed, address.toLower ≠ mail.recipientEmail.toLower

/-- The address that a call is about to queue a message for. -/
def MailPoint.insertsTo : MailPoint → Option String
  | .enqueue (.inserting _ _ r _) => some r.address
  | .enqueue (.counting _) | .enqueue (.queueing ..) | .deliver .. | .suppress _ => none

/-- A message to the address waits, or another call is about to queue one. -/
def WaitsFor (S : MailState) (w : Nat) (address : String) : Prop :=
  (∃ m ∈ S.committed.messages, m.status = .pending ∧ m.recipientEmail = address) ∨
    ∃ x ∈ S.others w, x.2.insertsTo = some address

instance (S : MailState) (w : Nat) (address : String) : Decidable (WaitsFor S w address) :=
  inferInstanceAs (Decidable ((∃ m ∈ _, _) ∨ ∃ x ∈ _, _))

/-- What a step of a call has to find: a suppression that is new, or is active again, is of an address for which nothing
waits; a message that waits again after an error has an address without one. -/
def SuppressesAt (config : MailConfig) (S : MailState) (w : Nat) : MailPoint → Prop
  | .suppress (.finding input) =>
    (∃ s ∈ S.committed.suppressions, s.emailNormalized = input.email.toLower) ∨ ¬ WaitsFor S w input.email.toLower
  | .suppress (.reactivating _ input) =>
    S.committed.isSuppressed input.email.toLower = true ∨ ¬ WaitsFor S w input.email.toLower
  | .deliver _ (.recording message _ mark _) =>
    mark = none ∧ config.writesUnchanged = false ∨ config.maxSendAttempts ≤ message.attempts mark ∨
      S.committed.isSuppressed message.recipientEmail = false
  | _ => True

/-- The condition on a step. -/
def SuppressesNothingWaiting (config : MailConfig) (S : MailState) : MailAct → Prop
  | .go w _ => ∀ p ∈ S.find? w, SuppressesAt config S w p
  | _ => True

instance (config : MailConfig) (S : MailState) (w : Nat) : DecidablePred (SuppressesAt config S w)
  | .suppress (.finding _) => inferInstanceAs (Decidable ((∃ s ∈ _, _) ∨ ¬ _))
  | .suppress (.reactivating ..) => inferInstanceAs (Decidable (_ = true ∨ ¬ _))
  | .deliver _ (.recording ..) => inferInstanceAs (Decidable (_ ∧ _ ∨ _ ≤ _ ∨ _ = false))
  | .deliver _ .reading | .deliver _ (.claiming _) | .deliver _ (.claimed ..) | .deliver _ (.sending ..)
  | .deliver _ (.marking ..) | .enqueue _ => .isTrue trivial

instance (config : MailConfig) (S : MailState) : DecidablePred (SuppressesNothingWaiting config S)
  | .go w _ => inferInstanceAs (Decidable (∀ p ∈ S.find? w, _))
  | .start .. | .die _ | .outside _ => .isTrue trivial

/-! ## The invariant -/

section Invariant

variable {config : MailConfig} {db db' : CampaignMailDb}

/-- No message that waits goes to a suppressed address; addresses are in lower case. -/
structure SuppressionBooks (db : CampaignMailDb) : Prop where
  waiting : ∀ m ∈ db.messages, m.status = .pending → db.isSuppressed m.recipientEmail = false
  recipients : ∀ m ∈ db.messages, m.recipientEmail.toLower = m.recipientEmail
  normalized : ∀ s ∈ db.suppressions, s.emailNormalized.toLower = s.emailNormalized
  handed : ∀ mail ∈ db.trace.handed, mail.Free

/-- The message waited when it was read, and it is stored with its address. -/
def StillTo (message : EmailMessage) (db : CampaignMailDb) : Prop :=
  message.status = .pending ∧ ∃ m ∈ db.messages, m.id = message.id ∧ m.recipientEmail = message.recipientEmail

def DeliveryPoint.messages : DeliveryPoint → List EmailMessage
  | .reading => []
  | .claiming due => due
  | .claimed message due _ | .sending message due | .marking message due _ | .recording message due _ _ => message :: due

/-- What a call relies on. -/
def SuppressionRelies : MailPoint → CampaignMailDb → Prop
  | .enqueue (.inserting _ _ r _), db => db.isSuppressed r.address = false
  | .enqueue _, _ => True
  | .deliver _ p, db => (∀ m ∈ p.messages, StillTo m db) ∧
    match p with
    | .claimed message _ suppressed => ∀ address ∈ suppressed, address.toLower ≠ message.recipientEmail.toLower
    | .marking _ _ mark => mark.status ≠ .pending
    | _ => True
  | .suppress (.reactivating id input), db =>
    ∃ s ∈ db.suppressions, s.id = id ∧ s.emailNormalized = input.email.toLower
  | .suppress _, _ => True

theorem CampaignMailDb.isSuppressed_eq_true {email : String} :
    db.isSuppressed email = true ↔ ∃ s ∈ db.suppressions, s.emailNormalized = email ∧ s.isActive = true := by
  simp only [isSuppressed, Table.findBy_isSome, decide_eq_true_eq]

/-- Between addresses in lower case, the case does not matter. -/
theorem CampaignMailDb.free_in_any_case
    (hnormalized : ∀ s ∈ db.suppressions, s.emailNormalized.toLower = s.emailNormalized) {email : String}
    (hemail : email.toLower = email) (hfree : db.isSuppressed email = false) :
    ∀ address ∈ db.suppressedAddresses, address.toLower ≠ email.toLower := by
  rintro address haddress hsame
  obtain ⟨s, hs, rfl⟩ := List.mem_map.mp haddress
  have hs' := (Table.mem_rowsWhere.mp hs).1
  rw [hnormalized s hs', hemail] at hsame
  exact Bool.false_ne_true (hfree.symm.trans (isSuppressed_iff.mpr (hsame ▸ haddress)))

/-- A suppression touches no address for which something waits. -/
theorem SuppressStep.isSuppressed {S : MailState} {w : Nat} {p : SuppressPoint} {q : Option SuppressPoint}
    (h : SuppressStep S.committed p db' q) (hok : SuppressesAt config S w (.suppress p))
    (hp : SuppressionRelies (.suppress p) S.committed) {email : String} (hwaits : WaitsFor S w email)
    (hfree : S.committed.isSuppressed email = false) : db'.isSuppressed email = false := by
  have hnone : ∀ s ∈ S.committed.suppressions, s.emailNormalized = email → s.isActive = true → False := by
    intro s hs hsame hactive
    rw [CampaignMailDb.isSuppressed_eq_true.mpr ⟨s, hs, hsame, hactive⟩] at hfree
    cases hfree
  refine Bool.eq_false_iff.mpr fun hnow => ?_
  cases h with
  | @creates input habsent =>
    obtain ⟨s, hs, hsame, hactive⟩ := CampaignMailDb.isSuppressed_eq_true.mp hnow
    rcases (Table.mem_create fun _ => rfl).mp hs with hs | rfl
    · exact hnone s hs hsame hactive
    · have hemail : input.email.toLower = email := hsame
      rcases hok with ⟨s, hs, hs'⟩ | hnot
      · exact habsent s hs hs'
      · exact hnot (hemail ▸ hwaits)
  | @reactivates id input =>
    obtain ⟨s, hs, hsame, hactive⟩ := CampaignMailDb.isSuppressed_eq_true.mp hnow
    obtain ⟨s₀, hs₀, rfl⟩ := (Table.mem_updateWhere (f := input.reactivate) fun _ => rfl).mp hs
    by_cases hid : s₀.id = id
    · obtain ⟨s₁, hs₁, hs₁id, hs₁email⟩ := hp
      obtain rfl := Table.eq_of_key_eq hs₀ hs₁ (hid.trans hs₁id.symm)
      rw [if_pos (decide_eq_true hid)] at hsame
      have hemail : input.email.toLower = email := hs₁email.symm.trans hsame
      rcases hok with hwas | hnot
      · exact Bool.false_ne_true (hfree.symm.trans (hemail ▸ hwas))
      · exact hnot (hemail ▸ hwaits)
    · rw [if_neg fun h => hid (of_decide_eq_true h)] at hsame hactive
      exact hnone s₀ hs₀ hsame hactive
  | finds | stays => exact Bool.false_ne_true (hfree.symm.trans hnow)

theorem SuppressStep.normalized {p : SuppressPoint} {q : Option SuppressPoint} (h : SuppressStep db p db' q)
    (hnormalized : ∀ s ∈ db.suppressions, s.emailNormalized.toLower = s.emailNormalized) :
    ∀ s ∈ db'.suppressions, s.emailNormalized.toLower = s.emailNormalized := by
  cases h with
  | @creates input =>
    intro s hs
    rcases (Table.mem_create fun _ => rfl).mp hs with hs | rfl
    · exact hnormalized s hs
    · exact toLower_toLower input.email
  | @reactivates id input =>
    exact Table.forall_updateWhere (f := input.reactivate) (fun _ => rfl) hnormalized fun _ _ _ h => h
  | finds | stays => exact hnormalized

/-! ## Messages -/

theorem StillTo.updateMessage {message : EmailMessage} (h : StillTo message db) (id : Nat)
    {f : EmailMessage → EmailMessage} (hf : ∀ row, (f row).id = row.id ∧ (f row).recipientEmail = row.recipientEmail) :
    StillTo message (db.updateMessage id f) := by
  obtain ⟨hwaited, m, hm, hid, hemail⟩ := h
  obtain ⟨m', hm', hsame⟩ := Table.exists_updateWhere (p := fun m : EmailMessage => m.id = id) (fun row => (hf row).1)
    (R := fun m m' => m'.id = m.id ∧ m'.recipientEmail = m.recipientEmail) (fun _ => ⟨rfl, rfl⟩) hf hm
  exact ⟨hwaited, m', hm', hsame.1.trans hid, hsame.2.trans hemail⟩

theorem StillTo.insert {message : EmailMessage} (h : StillTo message db) {mk : Nat → EmailMessage}
    (hmk : ∀ k, (mk k).id = k) : StillTo message { db with messages := db.messages.create mk } :=
  ⟨h.1, h.2.imp fun _ ⟨hm, hrest⟩ => ⟨Table.mem_create_of_mem hmk hm, hrest⟩⟩

/-- An update leaves a message waiting only when it waited, or its address has no suppression. -/
theorem SuppressionBooks.updateMessage (h : SuppressionBooks db) (id : Nat) {f : EmailMessage → EmailMessage}
    (hf : ∀ row, (f row).id = row.id ∧ (f row).recipientEmail = row.recipientEmail)
    (hstatus : ∀ row ∈ db.messages, row.id = id → (f row).status = .pending →
      row.status = .pending ∨ db.isSuppressed row.recipientEmail = false) :
    SuppressionBooks (db.updateMessage id f) := by
  refine ⟨fun m hm hpending => ?_, fun m hm => ?_, h.normalized, h.handed⟩ <;>
    obtain ⟨row, hrow, rfl⟩ := (Table.mem_updateWhere fun row => (hf row).1).mp hm
  · by_cases hid : row.id = id
    · rw [if_pos (decide_eq_true hid)] at hpending ⊢
      refine Eq.trans (congrArg db.isSuppressed (hf row).2) ?_
      exact (hstatus row hrow hid hpending).elim (h.waiting row hrow) fun hfree => hfree
    · rw [if_neg fun h => hid (of_decide_eq_true h)] at hpending ⊢
      exact h.waiting row hrow hpending
  · split
    · rw [(hf row).2]
      exact h.recipients row hrow
    · exact h.recipients row hrow

theorem EmailMessage.recorded_email (message : EmailMessage) (mark : Option SentMark) (error : String) (now : Instant)
    (row : EmailMessage) : (message.recorded config mark error now row).recipientEmail = row.recipientEmail := by
  cases mark <;> rfl

/-- The `catch` leaves a message waiting that waited, or one that may wait again. -/
theorem EmailMessage.recorded_pending {message : EmailMessage} {mark : Option SentMark} {error : String} {now : Instant}
    {row : EmailMessage} (h : (message.recorded config mark error now row).status = .pending)
    (hwaited : message.status = .pending)
    (hok : mark = none ∧ config.writesUnchanged = false ∨ config.maxSendAttempts ≤ message.attempts mark ∨
      db.isSuppressed message.recipientEmail = false) :
    row.status = .pending ∨ db.isSuppressed message.recipientEmail = false := by
  rcases hok with ⟨rfl, hwrites⟩ | hattempts | hfree
  · refine .inl ?_
    simp only [EmailMessage.recorded, EmailMessage.save, hwaited, hwrites] at h
    split at h
    · exact h
    · rename_i hnot
      exact absurd ⟨h, Bool.false_ne_true⟩ hnot
  · have hfailed : message.statusAfterError config mark = .failed := if_pos hattempts
    cases mark with
    | none =>
      simp only [EmailMessage.recorded, EmailMessage.save, hfailed] at h
      split at h
      · exact .inl h
      · cases h
    | some mark =>
      simp only [EmailMessage.recorded, hfailed] at h
      cases h
  · exact .inr hfree

/-! ## Steps -/

theorem DeliveryStep.suppressions {call : Option TrackingId} {S : MailState} {w : Nat} {p q : DeliveryPoint}
    (h : DeliveryStep config S.committed p db' q) (hok : SuppressesAt config S w (.deliver call p))
    (hp : SuppressionRelies (.deliver call p) S.committed) (hbooks : SuppressionBooks S.committed) :
    SuppressionBooks db' ∧ SuppressionRelies (.deliver call q) db' := by
  obtain ⟨hstill, hpoint⟩ := hp
  cases h with
  | reads =>
    refine ⟨hbooks, fun m hm => ?_, trivial⟩
    obtain ⟨hm, hwaits⟩ := Table.mem_rowsWhere.mp ((List.mem_insertionSort _).mp (List.mem_of_mem_take hm))
    exact ⟨(of_decide_eq_true hwaits).1, m, hm, rfl, rfl⟩
  | @claims message due row hrow hsame hpending =>
    refine ⟨hbooks.updateMessage _ (fun _ => ⟨rfl, rfl⟩) fun _ _ _ h => (EmailStatus.noConfusion h : False).elim,
      fun m hm => (hstill m hm).updateMessage _ fun _ => ⟨rfl, rfl⟩, ?_⟩
    obtain ⟨-, m, hm, hid, hemail⟩ := hstill message List.mem_cons_self
    obtain rfl := Table.eq_of_key_eq hm hrow (hid.trans hsame.symm)
    have hfree := CampaignMailDb.free_in_any_case hbooks.normalized (hbooks.recipients m hm)
      (hbooks.waiting m hm hpending)
    rw [hemail] at hfree
    exact hfree
  | passes => exact ⟨hbooks, fun m hm => hstill m (List.mem_cons_of_mem _ hm), trivial⟩
  | hands =>
    refine ⟨⟨hbooks.waiting, hbooks.recipients, hbooks.normalized, fun h hh => ?_⟩, hstill, trivial⟩
    rcases List.mem_cons.mp hh with rfl | hh
    · exact hpoint
    · exact hbooks.handed h hh
  | @accepts message due outcome now =>
    exact ⟨⟨hbooks.waiting, hbooks.recipients, hbooks.normalized, hbooks.handed⟩, hstill, message.mark_status outcome now⟩
  | refuses => exact ⟨hbooks, hstill, trivial⟩
  | @marks message due mark =>
    refine ⟨hbooks.updateMessage _ (fun _ => ⟨rfl, rfl⟩) fun row _ _ hpending => .inl ?_,
      fun m hm => (hstill m (List.mem_cons_of_mem _ hm)).updateMessage _ fun _ => ⟨rfl, rfl⟩, trivial⟩
    rcases EmailMessage.save_cases config message.status mark.status row.status with hsave | hsave
    · exact hsave.symm.trans hpending
    · exact absurd (hsave.symm.trans hpending) hpoint
  | fails => exact ⟨hbooks, hstill, trivial⟩
  | @records message due mark error now =>
    have hkeeps : ∀ row, (message.recorded config mark error now row).id = row.id ∧
        (message.recorded config mark error now row).recipientEmail = row.recipientEmail := fun row =>
      ⟨message.recorded_id mark error now row, message.recorded_email mark error now row⟩
    refine ⟨hbooks.updateMessage _ hkeeps fun row hrow hid hpending => ?_,
      fun m hm => (hstill m (List.mem_cons_of_mem _ hm)).updateMessage _ hkeeps, trivial⟩
    obtain ⟨hwaited, m, hm, hmid, hemail⟩ := hstill message List.mem_cons_self
    obtain rfl := Table.eq_of_key_eq hm hrow (hmid.trans hid.symm)
    rw [hemail]
    exact EmailMessage.recorded_pending hpending hwaited hok

/-- The suppressions stay, and so do the messages with their addresses. -/
theorem DeliveryStep.keepsRows {p q : DeliveryPoint} (h : DeliveryStep config db p db' q) :
    db'.suppressions = db.suppressions ∧ ∀ m, StillTo m db → StillTo m db' := by
  cases h with
  | claims | marks => exact ⟨rfl, fun m hm => hm.updateMessage _ fun _ => ⟨rfl, rfl⟩⟩
  | @records message due mark error now =>
    exact ⟨rfl, fun m hm => hm.updateMessage _ fun row =>
      ⟨message.recorded_id mark error now row, message.recorded_email mark error now row⟩⟩
  | reads | passes | hands | accepts | refuses | fails => exact ⟨rfl, fun _ hm => hm⟩

theorem EnqueueStep.keepsRows {p : EnqueuePoint} {q : Option MailPoint} (h : EnqueueStep db p db' q) :
    db'.suppressions = db.suppressions ∧ ∀ m, StillTo m db → StillTo m db' := by
  cases h with
  | inserts => exact ⟨rfl, fun m hm => hm.insert fun _ => rfl⟩
  | returns | begins | skips | checks | delivers | waits => exact ⟨rfl, fun _ hm => hm⟩

theorem CampaignMailDb.isSuppressed_congr (h : db'.suppressions = db.suppressions) (email : String) :
    db'.isSuppressed email = db.isSuppressed email := by
  unfold isSuppressed
  rw [h]

theorem SuppressionRelies.keeps {x : MailPoint} (hx : SuppressionRelies x db)
    (h : db'.suppressions = db.suppressions ∧ ∀ m, StillTo m db → StillTo m db') : SuppressionRelies x db' := by
  rcases x with (_ | _ | _) | ⟨_, p⟩ | _ | _
  · trivial
  · trivial
  · exact (CampaignMailDb.isSuppressed_congr h.1 _).trans hx
  · exact ⟨fun m hm => h.2 m (hx.1 m hm), hx.2⟩
  · trivial
  · simp only [SuppressionRelies, h.1]
    exact hx

theorem EnqueueStep.suppressions {p : EnqueuePoint} {q : Option MailPoint} (h : EnqueueStep db p db' q)
    (hp : SuppressionRelies (.enqueue p) db) (hbooks : SuppressionBooks db) :
    SuppressionBooks db' ∧ ∀ p' ∈ q, SuppressionRelies p' db' := by
  cases h with
  | @inserts call scheduledAt r rest =>
    refine ⟨⟨fun m hm hpending => ?_, fun m hm => ?_, hbooks.normalized, hbooks.handed⟩, fun p' hp' => ?_⟩
    · rcases (Table.mem_create fun _ => rfl).mp hm with hm | rfl
      · exact hbooks.waiting m hm hpending
      · exact hp
    · rcases (Table.mem_create fun _ => rfl).mp hm with hm | rfl
      · exact hbooks.recipients m hm
      · exact toLower_toLower r.email
    · obtain rfl := Option.some.inj hp'
      trivial
  | returns | waits =>
    exact ⟨⟨hbooks.waiting, hbooks.recipients, hbooks.normalized, hbooks.handed⟩,
      fun p' hp' => absurd hp' (Option.not_mem_none p')⟩
  | begins | skips =>
    refine ⟨⟨hbooks.waiting, hbooks.recipients, hbooks.normalized, hbooks.handed⟩, fun p' hp' => ?_⟩
    obtain rfl := Option.some.inj hp'
    trivial
  | checks hfree =>
    refine ⟨hbooks, fun p' hp' => ?_⟩
    obtain rfl := Option.some.inj hp'
    exact hfree
  | delivers =>
    refine ⟨⟨hbooks.waiting, hbooks.recipients, hbooks.normalized, hbooks.handed⟩, fun p' hp' => ?_⟩
    obtain rfl := Option.some.inj hp'
    exact ⟨fun m hm => absurd hm List.not_mem_nil, trivial⟩

theorem SuppressStep.suppressions {S : MailState} {w : Nat} {p : SuppressPoint} {q : Option SuppressPoint}
    (h : SuppressStep S.committed p db' q) (hok : SuppressesAt config S w (.suppress p))
    (hp : SuppressionRelies (.suppress p) S.committed) (hbooks : SuppressionBooks S.committed) :
    SuppressionBooks db' ∧ ∀ p' ∈ q, SuppressionRelies (.suppress p') db' := by
  have hsame : db'.messages = S.committed.messages ∧ db'.trace = S.committed.trace := by
    cases h <;> exact ⟨rfl, rfl⟩
  refine ⟨⟨fun m hm hpending => ?_, hsame.1 ▸ hbooks.recipients, h.normalized hbooks.normalized,
    hsame.2 ▸ hbooks.handed⟩, fun p' hp' => ?_⟩
  · rw [hsame.1] at hm
    exact h.isSuppressed hok hp (.inl ⟨m, hm, hpending, rfl⟩) (hbooks.waiting m hm hpending)
  · cases h with
    | @finds input row hrow hemail =>
      obtain rfl := Option.some.inj hp'
      exact ⟨row, hrow, rfl, hemail⟩
    | creates | stays | reactivates => exact absurd hp' (Option.not_mem_none p')

/-- A suppression stays, with its address. -/
theorem SuppressStep.keepsRow {p : SuppressPoint} {q : Option SuppressPoint} (h : SuppressStep db p db' q) {id : Nat}
    {address : String} (hrow : ∃ s ∈ db.suppressions, s.id = id ∧ s.emailNormalized = address) :
    ∃ s ∈ db'.suppressions, s.id = id ∧ s.emailNormalized = address := by
  obtain ⟨s, hs, hid, haddress⟩ := hrow
  cases h with
  | creates => exact ⟨s, Table.mem_create_of_mem (fun _ => rfl) hs, hid, haddress⟩
  | @reactivates id' input =>
    obtain ⟨s', hs', hsame⟩ := Table.exists_updateWhere (p := fun s : EmailSuppression => s.id = id')
      (f := input.reactivate) (fun _ => rfl)
      (R := fun s s' => s'.id = s.id ∧ s'.emailNormalized = s.emailNormalized) (fun _ => ⟨rfl, rfl⟩)
      (fun _ => ⟨rfl, rfl⟩) hs
    exact ⟨s', hs', hsame.1.trans hid, hsame.2.trans haddress⟩
  | finds | stays => exact ⟨s, hs, hid, haddress⟩

/-- What the other calls rely on stays: a suppression is of no address that another call is about to use. -/
theorem SuppressStep.suppressions_others {S : MailState} {w : Nat} {p : SuppressPoint} {q : Option SuppressPoint}
    (h : SuppressStep S.committed p db' q) (hok : SuppressesAt config S w (.suppress p))
    (hp : SuppressionRelies (.suppress p) S.committed) {x : Nat × MailPoint} (hx : x ∈ S.others w)
    (hrelies : SuppressionRelies x.2 S.committed) : SuppressionRelies x.2 db' := by
  obtain ⟨w', x⟩ := x
  have hmessages : db'.messages = S.committed.messages := by cases h <;> rfl
  rcases x with (_ | _ | _) | ⟨_, d⟩ | _ | ⟨id, input⟩
  · trivial
  · trivial
  · exact h.isSuppressed hok hp (.inr ⟨_, hx, rfl⟩) hrelies
  · refine ⟨fun m hm => ?_, hrelies.2⟩
    rw [StillTo, hmessages]
    exact hrelies.1 m hm
  · trivial
  · exact h.keepsRow hrelies

end Invariant

/-! ## Suppressions in a run -/

theorem suppression_promises (config : MailConfig) :
    (mailWorkers config).Promises (fun _ => True) (SuppressesNothingWaiting config) SuppressionBooks
      SuppressionRelies where
  start {S task p} _ _ hstart := by
    cases task with
    | enqueue call =>
      simp only [mailWorkers] at hstart
      split at hstart
      · obtain rfl := Option.some.inj hstart
        trivial
      · cases hstart
    | processDue =>
      obtain rfl := Option.some.inj hstart
      exact ⟨fun m hm => absurd hm List.not_mem_nil, trivial⟩
    | suppress input =>
      obtain rfl := Option.some.inj hstart
      trivial
  next {S w answer p store q} _ hkeeps hfind hok hnext := by
    have hbooks := hkeeps.store
    have hp := hkeeps.at hfind
    have hokAt := hok p hfind
    cases mailWorkers_next hnext with
    | enqueues step => exact step.suppressions hp hbooks
    | delivers step =>
      obtain ⟨hstore, hq⟩ := step.suppressions hokAt hp hbooks
      refine ⟨hstore, fun p' hp' => ?_⟩
      obtain rfl := Option.some.inj hp'
      exact hq
    | returns | ends =>
      exact ⟨⟨hbooks.waiting, hbooks.recipients, hbooks.normalized, hbooks.handed⟩,
        fun p' hp' => absurd hp' (Option.not_mem_none p')⟩
    | finds step =>
      obtain ⟨hstore, hq⟩ := step.suppressions hokAt hp hbooks
      refine ⟨hstore, fun p' hp' => ?_⟩
      obtain rfl := Option.some.inj hp'
      exact hq _ rfl
    | suppresses step =>
      exact ⟨(step.suppressions hokAt hp hbooks).1, fun p' hp' => absurd hp' (Option.not_mem_none p')⟩
  stable {S w answer p store q} _ hkeeps hfind hok hnext x hx := by
    have hrelies := hkeeps.worker x (Sessions.mem_others.mp hx).1
    have hp := hkeeps.at hfind
    have hokAt := hok p hfind
    cases mailWorkers_next hnext with
    | enqueues step => exact hrelies.keeps step.keepsRows
    | delivers step => exact hrelies.keeps step.keepsRows
    | returns | ends => exact hrelies.keeps ⟨rfl, fun _ hm => hm⟩
    | finds step | suppresses step => exact step.suppressions_others hokAt hp hx hrelies
  outside {S event} := event.elim

/-- **Suppression is honoured**: in every interleaving that meets the condition, no message is handed to the transport
whose address had an active suppression, in any letter case, before the message was claimed. -/
theorem suppression_honoured {config : MailConfig} {S : MailState}
    (h : (campaignMail config).Reachable (SuppressesNothingWaiting config) S) :
    ∀ mail ∈ S.committed.trace.handed, mail.Free := by
  have hinit : ∀ db, NoMailYet db → SuppressionBooks db := by
    rintro db ⟨hnone, htrace, hnormalized⟩
    exact ⟨by simp [hnone], by simp [hnone], hnormalized, by simp [htrace]⟩
  exact (Workers.keeps (suppression_promises config) hinit (fun _ _ => trivial) h).store.handed

/-! ## A message for later -/

section Examples

/-- Retries after a minute, three attempts. -/
def mailRetries : MailConfig := ⟨3, 60000, false⟩

def noSuppressions : CampaignMailDb := ⟨[1], .empty, .empty, ⟨[], [], [], [], []⟩⟩

def enqueueAt (scheduledAt : Instant) (email : String) : EnqueueCall :=
  ⟨1, "k", some scheduledAt, [⟨email, none, ⟨"Hola", "<p>Hola</p>", none⟩⟩]⟩

def unsubscribe (email : String) : CreateEmailSuppressionDto := ⟨email, .unsubscribe, none⟩

def taken (now : Instant) : MailAnswer := ⟨now, .ok ⟨false, "m"⟩, .ok ()⟩

theorem noSuppressions_init : (campaignMail mailRetries).init ⟨noSuppressions, []⟩ := ⟨⟨rfl, rfl, by decide⟩, rfl⟩

/-- A message, and a suppression of its address once it is sent. -/
def suppressedAfter : MailState :=
  (campaignMail mailRetries).afterIf (SuppressesNothingWaiting mailRetries) ⟨noSuppressions, []⟩
    (.start 0 (.enqueue (enqueueAt 0 "A@b.co")) :: List.replicate 10 (.go 0 (taken 0)) ++
      [.start 1 (.suppress (unsubscribe "a@B.co")), .go 1 (taken 5)])

theorem suppression_honoured_of_turns :
    suppressedAfter.committed.suppressedAddresses = ["a@b.co"] ∧
      suppressedAfter.committed.trace.handed ≠ [] ∧
      ∀ mail ∈ suppressedAfter.committed.trace.handed, mail.Free :=
  ⟨by decide +kernel, by decide +kernel, suppression_honoured
    ((campaignMail mailRetries).reachable_afterIf (SuppressesNothingWaiting mailRetries) noSuppressions_init _)⟩

/-- A message for later; its recipient unsubscribes before it is due. -/
def suppressedBefore : MailState :=
  (campaignMail mailRetries).after ⟨noSuppressions, []⟩
    (.start 0 (.enqueue (enqueueAt 1000 "A@b.co")) :: List.replicate 4 (.go 0 (taken 0)) ++
      [.start 1 (.suppress (unsubscribe "a@B.co")), .go 1 (taken 5), .start 2 .processDue] ++
      List.replicate 3 (.go 2 (taken 1000)))

/-- The message is handed over when it is due. -/
theorem suppression_counterexample :
    (campaignMail mailRetries).Reachable (fun _ _ => True) suppressedBefore ∧
      ∃ mail ∈ suppressedBefore.committed.trace.handed, ¬ mail.Free := by
  have hhanded : suppressedBefore.committed.trace.handed = [⟨1, "a@b.co", ["a@b.co"], false⟩] := by decide +kernel
  refine ⟨Machine.reachable_after _ noSuppressions_init _, ⟨1, "a@b.co", ["a@b.co"], false⟩, ?_, fun hfree => ?_⟩
  · rw [hhanded]
    exact List.mem_singleton_self _
  · exact hfree "a@b.co" (List.mem_singleton_self _) rfl

end Examples

end AtlasErp
