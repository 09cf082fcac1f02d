import AtlasErp.Ads.EmailMessaging

/-! # Advertising: a batch of campaign e-mail

`enqueue` takes a key with messages for a key that is done, and `deliver` writes the result of a send after the send.

- `MailedOnce`: what a key and its recipients leave, and that nothing acknowledged is sent again;
- `CountsWhole`, `MarkedInTime`: the condition on a step;
- `batch_keeps`, `resend_keeps`: the two invariants;
- `mailedOnce`: every interleaving that meets the condition;
- `mailedOnce_counterexample`: a call that stops between two recipients, and its repetition. -/

namespace AtlasErp

open Lib

/-! ## The property and the condition -/

/-- The messages of a key for an address. -/
def CampaignMailDb.mailed (db : CampaignMailDb) (t : TrackingId) (address : String) : Nat :=
  db.messages.rows.countP fun m => m.trackingId = t ∧ m.recipientEmail = address

/-- What the calls with a key leave for its recipients. -/
structure MailedOnce (t : TrackingId) (recipients : List EmailRecipient) (db : CampaignMailDb) : Prop where
  /-- A call that returned has left one message for each recipient that is not suppressed then. -/
  one : ∀ c ∈ db.trace.enqueued, c.trackingId = t → ∀ r ∈ recipients, r.address ∉ c.suppressed →
    db.mailed t r.address = 1
  atMost : ∀ address, db.mailed t address ≤ 1
  /-- A message goes to a recipient that some call found without a suppression. -/
  free : ∀ address, db.mailed t address ≠ 0 → (∃ r ∈ recipients, r.address = address) ∧
    ∃ c ∈ db.trace.begun, c.trackingId = t ∧ address ∉ c.suppressed
  notAgain : ∀ h ∈ db.trace.handed, h.acknowledgedBefore = false

/-- The key of the batch that a call is inserting. -/
def MailPoint.batchOf : MailPoint → Option TrackingId
  | .enqueue (.queueing call _ _) | .enqueue (.inserting call _ _ _) => some call.trackingId
  | .enqueue (.counting _) | .deliver .. | .suppress _ => none

/-- The condition on a step of `enqueue`: a call with the key brings the recipients of the key and, when it counts the
messages of the key, no other call is inserting them, and if there are some then a call came past its last
recipient. -/
def CountsWhole (t : TrackingId) (recipients : List EmailRecipient) (S : MailState) : MailAct → Prop
  | .go w _ => ∀ p ∈ S.find? w,
    match p with
    | .enqueue (.counting call) => call.trackingId = t → call.recipients = recipients ∧
        (∀ x ∈ S.others w, x.2.batchOf ≠ some t) ∧
        ((∃ m ∈ S.committed.messages, m.trackingId = t) → t ∈ S.committed.trace.batched)
    | _ => True
  | _ => True

/-- The condition on a step of `deliver`: when the `UPDATE` that marks an acknowledged message fails, the attempts are
used up. -/
def MarkedInTime (config : MailConfig) (p : MailPoint) (_ : CampaignMailDb) : Prop :=
  match p with
  | .deliver _ (.recording message _ (some mark) _) => config.maxSendAttempts ≤ message.attempts (some mark)
  | _ => True

/-- The condition on a step. -/
def MailsWhole (config : MailConfig) (t : TrackingId) (recipients : List EmailRecipient) (S : MailState) (a : MailAct) :
    Prop :=
  CountsWhole t recipients S a ∧ Workers.GoesWhere (MarkedInTime config) S a

section Decide

variable (config : MailConfig) (t : TrackingId) (recipients : List EmailRecipient)

instance (S : MailState) (w : Nat) (p : MailPoint) : Decidable (match p with
    | .enqueue (.counting call) => call.trackingId = t → call.recipients = recipients ∧
        (∀ x ∈ S.others w, x.2.batchOf ≠ some t) ∧
        ((∃ m ∈ S.committed.messages, m.trackingId = t) → t ∈ S.committed.trace.batched)
    | _ => True) :=
  match p with
  | .enqueue (.counting _) => inferInstanceAs (Decidable (_ → _ ∧ (∀ x ∈ _, _) ∧ ((∃ m ∈ _, _) → _)))
  | .enqueue (.queueing ..) | .enqueue (.inserting ..) | .deliver .. | .suppress _ => .isTrue trivial

instance (S : MailState) : DecidablePred (CountsWhole t recipients S)
  | .go w _ => inferInstanceAs (Decidable (∀ p ∈ S.find? w, _))
  | .start .. | .die _ | .outside _ => .isTrue trivial

instance (p : MailPoint) (db : CampaignMailDb) : Decidable (MarkedInTime config p db) :=
  match p with
  | .deliver _ (.recording _ _ (some _) _) => inferInstanceAs (Decidable (_ ≤ _))
  | .deliver _ (.recording _ _ none _) | .deliver _ .reading | .deliver _ (.claiming _) | .deliver _ (.claimed ..)
  | .deliver _ (.sending ..) | .deliver _ (.marking ..) | .enqueue _ | .suppress _ => .isTrue trivial

instance (S : MailState) : DecidablePred (MailsWhole config t recipients S) := fun _ =>
  inferInstanceAs (Decidable (_ ∧ _))

end Decide

/-! ## What a batch leaves -/

section Batch

variable {t : TrackingId} {recipients : List EmailRecipient} {config : MailConfig} {db db' : CampaignMailDb}

/-- What a step leaves as it was, or lets grow. -/
structure Grows (t : TrackingId) (db db' : CampaignMailDb) : Prop where
  mailed : ∀ address, db'.mailed t address = db.mailed t address
  suppressed : ∀ address, db.isSuppressed address = true → db'.isSuppressed address = true
  begun : db.trace.begun ⊆ db'.trace.begun
  batched : db.trace.batched ⊆ db'.trace.batched

theorem Grows.refl (db : CampaignMailDb) : Grows t db db :=
  ⟨fun _ => rfl, fun _ h => h, List.Subset.refl _, List.Subset.refl _⟩

/-- A step that no call of `enqueue` makes. -/
structure Quiet (t : TrackingId) (db db' : CampaignMailDb) : Prop extends Grows t db db' where
  begunSame : db'.trace.begun = db.trace.begun
  batchedSame : db'.trace.batched = db.trace.batched
  enqueuedSame : db'.trace.enqueued = db.trace.enqueued

theorem Quiet.refl (db : CampaignMailDb) : Quiet t db db := ⟨.refl db, rfl, rfl, rfl⟩

theorem Quiet.updateMessage (id : Nat) {f : EmailMessage → EmailMessage}
    (hf : ∀ row, (f row).id = row.id ∧ (f row).trackingId = row.trackingId ∧ (f row).recipientEmail = row.recipientEmail) :
    Quiet t db (db.updateMessage id f) := by
  refine ⟨⟨fun address => ?_, fun _ h => h, List.Subset.refl _, List.Subset.refl _⟩, rfl, rfl, rfl⟩
  simp only [CampaignMailDb.mailed, CampaignMailDb.updateMessage, Table.rows_updateWhere fun row => (hf row).1,
    List.countP_map]
  refine List.countP_congr fun m _ => ?_
  by_cases hid : m.id = id <;> simp [hid, hf]

theorem DeliveryStep.quiet {p q : DeliveryPoint} (h : DeliveryStep config db p db' q) : Quiet t db db' := by
  cases h with
  | claims => exact .updateMessage _ fun _ => ⟨rfl, rfl, rfl⟩
  | marks => exact .updateMessage _ fun _ => ⟨rfl, rfl, rfl⟩
  | @records _ _ mark => exact .updateMessage _ fun _ => by cases mark <;> exact ⟨rfl, rfl, rfl⟩
  | reads | passes | refuses | fails => exact .refl _
  | hands | accepts =>
    exact ⟨⟨fun _ => rfl, fun _ h => h, List.Subset.refl _, List.Subset.refl _⟩, rfl, rfl, rfl⟩

theorem SuppressStep.quiet {p : SuppressPoint} {q : Option SuppressPoint} (h : SuppressStep db p db' q) :
    Quiet t db db' := by
  cases h with
  | creates =>
    refine ⟨⟨fun _ => rfl, fun address haddress => ?_, List.Subset.refl _, List.Subset.refl _⟩, rfl, rfl, rfl⟩
    simp only [CampaignMailDb.isSuppressed, Table.findBy_isSome] at haddress ⊢
    obtain ⟨s, hs, hmatch⟩ := haddress
    exact ⟨s, Table.mem_create_of_mem (fun _ => rfl) hs, hmatch⟩
  | @reactivates id input =>
    refine ⟨⟨fun _ => rfl, fun address haddress => ?_, List.Subset.refl _, List.Subset.refl _⟩, rfl, rfl, rfl⟩
    simp only [CampaignMailDb.isSuppressed, Table.findBy_isSome, decide_eq_true_eq] at haddress ⊢
    obtain ⟨s, hs, hsame, hactive⟩ := haddress
    obtain ⟨s', hs', hkeeps⟩ := Table.exists_updateWhere (p := fun s : EmailSuppression => s.id = id)
      (f := input.reactivate) (fun _ => rfl)
      (R := fun s s' => s'.emailNormalized = s.emailNormalized ∧ (s.isActive = true → s'.isActive = true))
      (fun _ => ⟨rfl, fun h => h⟩) (fun _ => ⟨rfl, fun _ => rfl⟩) hs
    exact ⟨s', hs', hkeeps.1.trans hsame, hkeeps.2 hactive⟩
  | finds | stays => exact .refl _

theorem CampaignMailDb.mailed_create (call : EnqueueCall) (scheduledAt : Instant) (r : EmailRecipient)
    (address : String) :
    CampaignMailDb.mailed { db with messages := db.messages.create (call.message scheduledAt r) } t address =
      db.mailed t address + if call.trackingId = t ∧ r.address = address then 1 else 0 := by
  have hrows : (db.messages.create (call.message scheduledAt r)).rows =
      db.messages.rows ++ [call.message scheduledAt r db.messages.nextKey] := Table.rows_create fun _ => rfl
  simp only [mailed, hrows, List.countP_append, List.countP_singleton, EnqueueCall.message, decide_eq_true_eq]

/-- Some message has the key when some address has one. -/
theorem CampaignMailDb.mailed_eq_zero (h : ¬ ∃ m ∈ db.messages, m.trackingId = t) (address : String) :
    db.mailed t address = 0 :=
  List.countP_eq_zero.mpr fun m hm hmatch => h ⟨m, hm, (of_decide_eq_true hmatch).1⟩

end Batch

/-! ## The invariant of a batch -/

section Invariant

variable (t : TrackingId) (recipients : List EmailRecipient)

/-- What is stored of the key. -/
structure BatchBooks (db : CampaignMailDb) : Prop where
  one : ∀ c ∈ db.trace.enqueued, c.trackingId = t → ∀ r ∈ recipients, r.address ∉ c.suppressed →
    db.mailed t r.address = 1
  atMost : ∀ address, db.mailed t address ≤ 1
  free : ∀ address, db.mailed t address ≠ 0 → (∃ r ∈ recipients, r.address = address) ∧
    ∃ c ∈ db.trace.begun, c.trackingId = t ∧ address ∉ c.suppressed
  batched : t ∈ db.trace.batched → ∀ r ∈ recipients, db.isSuppressed r.address = true ∨ db.mailed t r.address = 1
  /-- No suppression ends. -/
  begun : ∀ c ∈ db.trace.begun, ∀ address ∈ c.suppressed, db.isSuppressed address = true

/-- A call with the key has these recipients left. -/
structure BatchLeft (rest : List EmailRecipient) (db : CampaignMailDb) : Prop where
  sub : rest ⊆ recipients
  distinct : (rest.map EmailRecipient.address).Nodup
  fresh : ∀ r ∈ rest, db.mailed t r.address = 0
  done : ∀ r ∈ recipients, r ∈ rest ∨ db.isSuppressed r.address = true ∨ db.mailed t r.address = 1
  began : ∃ c ∈ db.trace.begun, c.trackingId = t

/-- What a call relies on. -/
def BatchRelies : MailPoint → CampaignMailDb → Prop
  | .enqueue (.queueing call _ rest), db => call.trackingId = t → BatchLeft t recipients rest db
  | .enqueue (.inserting call _ r rest), db => call.trackingId = t → BatchLeft t recipients (r :: rest) db ∧
      ∃ c ∈ db.trace.begun, c.trackingId = t ∧ r.address ∉ c.suppressed
  | .deliver (some t') _, db => t' = t → t ∈ db.trace.batched
  | _, _ => True

variable {t recipients} {config : MailConfig} {db db' : CampaignMailDb}

theorem BatchLeft.grows {rest : List EmailRecipient} (h : BatchLeft t recipients rest db) (hg : Grows t db db') :
    BatchLeft t recipients rest db' where
  sub := h.sub
  distinct := h.distinct
  fresh r hr := (hg.mailed _).trans (h.fresh r hr)
  done r hr := by
    rcases h.done r hr with hleft | hsuppressed | hone
    · exact .inl hleft
    · exact .inr (.inl (hg.suppressed _ hsuppressed))
    · exact .inr (.inr ((hg.mailed _).trans hone))
  began := h.began.imp fun _ ⟨hc, ht⟩ => ⟨hg.begun hc, ht⟩

theorem BatchRelies.grows {p : MailPoint} (h : BatchRelies t recipients p db) (hg : Grows t db db') :
    BatchRelies t recipients p db' := by
  rcases p with (call | ⟨call, _, rest⟩ | ⟨call, _, r, rest⟩) | ⟨_ | t', d⟩ | _
  · trivial
  · exact fun ht => (h ht).grows hg
  · exact fun ht => ⟨(h ht).1.grows hg, (h ht).2.imp fun _ ⟨hc, hfree⟩ => ⟨hg.begun hc, hfree⟩⟩
  · trivial
  · exact fun ht => hg.batched (h ht)
  · trivial

theorem BatchBooks.quiet (h : BatchBooks t recipients db) (hq : Quiet t db db') : BatchBooks t recipients db' where
  one c hc ht r hr hfree := (hq.mailed _).trans (h.one c (hq.enqueuedSame ▸ hc) ht r hr hfree)
  atMost address := (hq.mailed address).trans_le (h.atMost address)
  free address haddress := by
    rw [hq.begunSame]
    exact h.free address (hq.mailed address ▸ haddress)
  batched ht r hr := by
    rcases h.batched (hq.batchedSame ▸ ht) r hr with hsuppressed | hone
    · exact .inl (hq.suppressed _ hsuppressed)
    · exact .inr ((hq.mailed _).trans hone)
  begun c hc address haddress := hq.suppressed _ (h.begun c (hq.begunSame ▸ hc) address haddress)

theorem grows_begins (db : CampaignMailDb) (t' : TrackingId) : Grows t db (db.begins t') :=
  ⟨fun _ => rfl, fun _ h => h, List.subset_cons_self _ _, List.Subset.refl _⟩

theorem grows_batches (db : CampaignMailDb) (t' : TrackingId) : Grows t db (db.batches t') :=
  ⟨fun _ => rfl, fun _ h => h, List.Subset.refl _, List.subset_cons_self _ _⟩

theorem grows_returns (db : CampaignMailDb) (t' : TrackingId) : Grows t db (db.returns t') :=
  ⟨fun _ => rfl, fun _ h => h, List.Subset.refl _, List.Subset.refl _⟩

theorem BatchBooks.begins (h : BatchBooks t recipients db) (t' : TrackingId) :
    BatchBooks t recipients (db.begins t') where
  one := h.one
  atMost := h.atMost
  free address haddress :=
    ⟨(h.free address haddress).1, (h.free address haddress).2.imp fun _ ⟨hc, hfree⟩ => ⟨List.mem_cons_of_mem _ hc, hfree⟩⟩
  batched := h.batched
  begun c hc address haddress := by
    rcases List.mem_cons.mp hc with rfl | hc
    · exact CampaignMailDb.isSuppressed_iff.mpr haddress
    · exact h.begun c hc address haddress

theorem BatchBooks.batches (h : BatchBooks t recipients db) {t' : TrackingId}
    (hall : t' = t → ∀ r ∈ recipients, db.isSuppressed r.address = true ∨ db.mailed t r.address = 1) :
    BatchBooks t recipients (db.batches t') where
  one := h.one
  atMost := h.atMost
  free := h.free
  batched ht := by
    rcases List.mem_cons.mp ht with rfl | ht
    · exact hall rfl
    · exact h.batched ht
  begun := h.begun

/-- A call returns when one came past its last recipient. -/
theorem BatchBooks.returns (h : BatchBooks t recipients db) {t' : TrackingId}
    (hbatched : t' = t → t ∈ db.trace.batched) : BatchBooks t recipients (db.returns t') where
  one c hc ht r hr hfree := by
    rcases List.mem_cons.mp hc with rfl | hc
    · refine (h.batched (hbatched ht) r hr).resolve_left fun hsuppressed => hfree ?_
      exact CampaignMailDb.isSuppressed_iff.mp hsuppressed
    · exact h.one c hc ht r hr hfree
  atMost := h.atMost
  free := h.free
  batched := h.batched
  begun := h.begun

section Insert

variable {call : EnqueueCall} {scheduledAt : Instant} {r : EmailRecipient} {rest : List EmailRecipient}

theorem grows_insert (hne : call.trackingId ≠ t) :
    Grows t db { db with messages := db.messages.create (call.message scheduledAt r) } := by
  refine ⟨fun address => ?_, fun _ h => h, List.Subset.refl _, List.Subset.refl _⟩
  rw [CampaignMailDb.mailed_create, if_neg fun hand => hne hand.1, Nat.add_zero]

/-- **A message of the batch**: its recipient has none yet. -/
theorem BatchBooks.insert (h : BatchBooks t recipients db) (hleft : BatchLeft t recipients (r :: rest) db)
    (hfree : ∃ c ∈ db.trace.begun, c.trackingId = t ∧ r.address ∉ c.suppressed) (ht : call.trackingId = t) :
    BatchBooks t recipients { db with messages := db.messages.create (call.message scheduledAt r) } := by
  have hfresh := hleft.fresh r List.mem_cons_self
  have hmailed : ∀ address, CampaignMailDb.mailed
      { db with messages := db.messages.create (call.message scheduledAt r) } t address =
        if r.address = address then 1 else db.mailed t address := by
    intro address
    rw [CampaignMailDb.mailed_create]
    by_cases haddress : r.address = address
    · rw [if_pos ⟨ht, haddress⟩, if_pos haddress, ← haddress, hfresh]
    · rw [if_neg fun hand => haddress hand.2, if_neg haddress, Nat.add_zero]
  have hone : ∀ address, db.mailed t address = 1 → CampaignMailDb.mailed
      { db with messages := db.messages.create (call.message scheduledAt r) } t address = 1 := by
    intro address hwas
    rw [hmailed, hwas, ite_self]
  refine ⟨fun c hc hct r' hr' hnot => hone _ (h.one c hc hct r' hr' hnot), fun address => ?_, fun address haddress => ?_,
    fun hbatched r' hr' => (h.batched hbatched r' hr').imp_right (hone _), h.begun⟩
  · rw [hmailed]
    split
    · exact le_rfl
    · exact h.atMost address
  · rw [hmailed] at haddress
    split at haddress
    · rename_i hthis
      subst hthis
      exact ⟨⟨r, hleft.sub List.mem_cons_self, rfl⟩, hfree⟩
    · exact h.free address haddress

/-- The recipients that are left after one, which is suppressed or has a message now. -/
theorem BatchLeft.tail (hleft : BatchLeft t recipients (r :: rest) db) (hg : ∀ r' ∈ rest,
      db'.mailed t r'.address = db.mailed t r'.address)
    (hone : ∀ address, db.mailed t address = 1 → db'.mailed t address = 1)
    (hsuppressed : ∀ address, db.isSuppressed address = true → db'.isSuppressed address = true)
    (hbegun : db.trace.begun ⊆ db'.trace.begun)
    (hr : db'.isSuppressed r.address = true ∨ db'.mailed t r.address = 1) : BatchLeft t recipients rest db' where
  sub _ h := hleft.sub (List.mem_cons_of_mem _ h)
  distinct := (List.nodup_cons.mp hleft.distinct).2
  fresh r' hr' := (hg r' hr').trans (hleft.fresh r' (List.mem_cons_of_mem _ hr'))
  done r' hr' := by
    rcases hleft.done r' hr' with hin | hsup | hmailed
    · rcases List.mem_cons.mp hin with rfl | hin
      · exact .inr hr
      · exact .inl hin
    · exact .inr (.inl (hsuppressed _ hsup))
    · exact .inr (.inr (hone _ hmailed))
  began := hleft.began.imp fun _ ⟨hc, ht⟩ => ⟨hbegun hc, ht⟩

end Insert

theorem BatchLeft.all_done (h : BatchLeft t recipients [] db) :
    ∀ r ∈ recipients, db.isSuppressed r.address = true ∨ db.mailed t r.address = 1 := fun r hr =>
  (h.done r hr).resolve_left List.not_mem_nil

end Invariant

/-! ## Batches in a run -/

section Runs

variable {t : TrackingId} {recipients : List EmailRecipient} {config : MailConfig} {S : MailState}

/-- The key, when a call is inserting its messages. -/
def MailPoint.batches (t : TrackingId) (p : MailPoint) : List TrackingId := if p.batchOf = some t then [t] else []

theorem MailPoint.mem_batches {p : MailPoint} {t' : TrackingId} : t' ∈ p.batches t ↔ t' = t ∧ p.batchOf = some t := by
  unfold MailPoint.batches
  split <;> simp_all

/-- A call inserts messages of a key when it did, or when it has just counted them. -/
theorem MailStep.batchOf {db db' : CampaignMailDb} {p q : MailPoint} (h : MailStep config db p db' (some q))
    (hq : q.batchOf = some t) :
    p.batchOf = some t ∨ ∃ call, p = .enqueue (.counting call) ∧ call.trackingId = t := by
  cases h with
  | enqueues step =>
    cases step with
    | @begins call _ _ => exact .inr ⟨call, rfl, Option.some.inj hq⟩
    | skips | checks | inserts => exact .inl hq
    | delivers => cases hq
  | delivers | finds => cases hq

/-- No two calls insert the messages of the key. -/
abbrev BatchAlone (t : TrackingId) (S : MailState) : Prop :=
  Workers.Owned (MailPoint.batches t) (fun _ _ => True) S

theorem batch_alone (h : (campaignMail config).Reachable (MailsWhole config t recipients) S) : BatchAlone t S := by
  refine Machine.invariant (P := BatchAlone t) (fun S hinit => ?_) (fun S a S' hok hstep hS => ?_) h
  · refine ⟨fun x hx => ?_, fun x hx => ?_⟩ <;>
    · rw [hinit.2] at hx
      cases hx
  have hremain : ∀ w store, BatchAlone t ⟨store, S.others w⟩ := fun w _ => hS.remain w fun _ _ _ _ => trivial
  cases Workers.step_cases hstep with
  | @started w task p hstart _ =>
    refine (hremain w _).join fun t' ht' => ⟨trivial, fun x hx _ => ?_⟩
    have hp := (MailPoint.mem_batches.mp ht').2
    cases task with
    | enqueue call =>
      simp only [mailWorkers] at hstart
      split at hstart
      · obtain rfl := Option.some.inj hstart
        cases hp
      · cases hstart
    | processDue | suppress input =>
      obtain rfl := Option.some.inj hstart
      cases hp
  | @moved w answer p q store hfind hnext _ =>
    refine (hremain w _).join fun t' ht' => ⟨trivial, fun x hx hx' => ?_⟩
    obtain ⟨rfl, hq⟩ := MailPoint.mem_batches.mp ht'
    rcases (mailWorkers_next hnext).batchOf hq with hp | ⟨call, rfl, ht⟩
    · exact hS.others hfind (MailPoint.mem_batches.mpr ⟨rfl, hp⟩) hx hx'
    · exact (hok.1 _ hfind ht).2.1 x hx (MailPoint.mem_batches.mp hx').2
  | done | died => exact hremain _ _
  | changed => exact ⟨fun _ _ _ _ => trivial, hS.once⟩

theorem BatchRelies.start {db : CampaignMailDb} {task : MailTask} {p : MailPoint}
    (h : (mailWorkers config).start task db = some p) : BatchRelies t recipients p db := by
  cases task with
  | enqueue call =>
    simp only [mailWorkers] at h
    split at h
    · obtain rfl := Option.some.inj h
      trivial
    · cases h
  | processDue | suppress input =>
    obtain rfl := Option.some.inj h
    trivial

/-- **A step of a call** keeps what is stored of the key, and what the call relies on. -/
theorem MailStep.keeps {db db' : CampaignMailDb} {p : MailPoint} {q : Option MailPoint}
    (h : MailStep config db p db' q) (hdistinct : (recipients.map EmailRecipient.address).Nodup)
    (hcounts : ∀ call, p = .enqueue (.counting call) → call.trackingId = t → call.recipients = recipients ∧
      ((∃ m ∈ db.messages, m.trackingId = t) → t ∈ db.trace.batched))
    (hp : BatchRelies t recipients p db) (hbooks : BatchBooks t recipients db) :
    BatchBooks t recipients db' ∧ ∀ p' ∈ q, BatchRelies t recipients p' db' := by
  cases h with
  | enqueues step =>
    cases step with
    | @returns call hfound =>
      refine ⟨hbooks.returns fun ht => (hcounts call rfl ht).2 ?_, fun p' hp' => absurd hp' (Option.not_mem_none p')⟩
      obtain ⟨m, hm, hmt⟩ := hfound
      exact ⟨m, hm, hmt.trans ht⟩
    | @begins call scheduledAt habsent =>
      refine ⟨hbooks.begins _, fun p' hp' => ?_⟩
      obtain rfl := Option.some.inj hp'
      intro ht
      obtain ⟨hrecipients, -⟩ := hcounts call rfl ht
      rw [hrecipients]
      refine ⟨List.Subset.refl _, hdistinct, fun r _ => ?_, fun r hr => .inl hr, _, List.mem_cons_self, ht⟩
      exact CampaignMailDb.mailed_eq_zero (ht ▸ habsent) _
    | @skips call scheduledAt r rest hsuppressed =>
      refine ⟨hbooks, fun p' hp' => ?_⟩
      obtain rfl := Option.some.inj hp'
      intro ht
      exact (hp ht).tail (fun _ _ => rfl) (fun _ h => h) (fun _ h => h) (List.Subset.refl _) (.inl hsuppressed)
    | @checks call scheduledAt r rest hfree =>
      refine ⟨hbooks, fun p' hp' => ?_⟩
      obtain rfl := Option.some.inj hp'
      intro ht
      -- no suppression ends, so the address had none when the call began
      obtain ⟨c, hc, hct⟩ := (hp ht).began
      refine ⟨hp ht, c, hc, hct, fun hwas => ?_⟩
      rw [hbooks.begun c hc _ hwas] at hfree
      cases hfree
    | @inserts call scheduledAt r rest =>
      by_cases ht : call.trackingId = t
      · obtain ⟨hleft, hfree⟩ := hp ht
        refine ⟨hbooks.insert hleft hfree ht, fun p' hp' => ?_⟩
        obtain rfl := Option.some.inj hp'
        refine fun _ => hleft.tail (fun r' hr' => ?_) (fun address hone => ?_) (fun _ h => h) (List.Subset.refl _)
          (.inr ?_)
        · rw [CampaignMailDb.mailed_create, if_neg, Nat.add_zero]
          exact fun hand => (List.nodup_cons.mp hleft.distinct).1 (hand.2 ▸ List.mem_map_of_mem hr')
        · rw [CampaignMailDb.mailed_create, if_neg, hone]
          rintro ⟨-, rfl⟩
          rw [hleft.fresh r List.mem_cons_self] at hone
          cases hone
        · rw [CampaignMailDb.mailed_create, if_pos ⟨ht, rfl⟩, hleft.fresh r List.mem_cons_self]
      · refine ⟨hbooks.quiet ⟨grows_insert ht, rfl, rfl, rfl⟩, fun p' hp' => ?_⟩
        obtain rfl := Option.some.inj hp'
        exact fun h => absurd h ht
    | @delivers call scheduledAt =>
      refine ⟨hbooks.batches fun ht => (hp ht).all_done, fun p' hp' => ?_⟩
      obtain rfl := Option.some.inj hp'
      rintro rfl
      exact List.mem_cons_self
    | @waits call scheduledAt =>
      refine ⟨(hbooks.batches fun ht => (hp ht).all_done).returns ?_, fun p' hp' => absurd hp' (Option.not_mem_none p')⟩
      rintro rfl
      exact List.mem_cons_self
  | @delivers call _ _ _ step =>
    refine ⟨hbooks.quiet step.quiet, fun p' hp' => ?_⟩
    obtain rfl := Option.some.inj hp'
    cases call with
    | none => trivial
    | some t' => exact fun ht => (step.quiet (t := t)).batched (hp ht)
  | returns => exact ⟨hbooks.returns hp, fun p' hp' => absurd hp' (Option.not_mem_none p')⟩
  | ends => exact ⟨hbooks, fun p' hp' => absurd hp' (Option.not_mem_none p')⟩
  | finds step =>
    refine ⟨hbooks.quiet step.quiet, fun p' hp' => ?_⟩
    obtain rfl := Option.some.inj hp'
    trivial
  | suppresses step => exact ⟨hbooks.quiet step.quiet, fun p' hp' => absurd hp' (Option.not_mem_none p')⟩

/-- Of the others only a call with the key can put a message in the batch. -/
theorem MailStep.others {db db' : CampaignMailDb} {p x : MailPoint} {q : Option MailPoint}
    (h : MailStep config db p db' q) (halone : p.batchOf = some t → x.batchOf ≠ some t)
    (hx : BatchRelies t recipients x db) : BatchRelies t recipients x db' := by
  cases h with
  | enqueues step =>
    cases step with
    | returns => exact hx.grows (grows_returns _ _)
    | begins => exact hx.grows (grows_begins _ _)
    | delivers => exact hx.grows (grows_batches _ _)
    | waits => exact (hx.grows (grows_batches _ _)).grows (grows_returns _ _)
    | skips | checks => exact hx
    | @inserts call scheduledAt r rest =>
      by_cases ht : call.trackingId = t
      · have hnot := halone (congrArg some ht)
        rcases x with (_ | ⟨c, _, _⟩ | ⟨c, _, _, _⟩) | ⟨_ | t', _⟩ | _
        · trivial
        · exact fun h => absurd (congrArg some h) hnot
        · exact fun h => absurd (congrArg some h) hnot
        · trivial
        · exact hx
        · trivial
      · exact hx.grows (grows_insert ht)
  | delivers step => exact hx.grows step.quiet.toGrows
  | returns => exact hx.grows (grows_returns _ _)
  | ends => exact hx
  | finds step | suppresses step => exact hx.grows step.quiet.toGrows

theorem batch_promises (hdistinct : (recipients.map EmailRecipient.address).Nodup) :
    (mailWorkers config).Promises (BatchAlone t) (MailsWhole config t recipients) (BatchBooks t recipients)
      (BatchRelies t recipients) where
  start _ _ hstart := .start hstart
  next {S w answer p store q} _ hkeeps hfind hok hnext := by
    refine (mailWorkers_next hnext).keeps hdistinct (fun call hcall ht => ?_) (hkeeps.at hfind) hkeeps.store
    subst hcall
    obtain ⟨hrecipients, -, hbatched⟩ := hok.1 _ hfind ht
    exact ⟨hrecipients, hbatched⟩
  stable {S w answer p store q} halone hkeeps hfind _ hnext x hx := by
    refine (mailWorkers_next hnext).others (fun hp hx' => ?_) (hkeeps.worker x (Sessions.mem_others.mp hx).1)
    exact halone.others hfind (MailPoint.mem_batches.mpr ⟨rfl, hp⟩) hx (MailPoint.mem_batches.mpr ⟨rfl, hx'⟩)
  outside {S event} := event.elim

end Runs

/-! ## Sends in a run -/

section Sends

variable {t : TrackingId} {recipients : List EmailRecipient} {config : MailConfig} {db db' : CampaignMailDb}

/-- What was acknowledged does not wait, and was not sent again. -/
structure SendBooks (db : CampaignMailDb) : Prop where
  acknowledged : ∀ id ∈ db.trace.acknowledged, ∃ m ∈ db.messages, m.id = id ∧ m.status ≠ .pending
  notAgain : ∀ h ∈ db.trace.handed, h.acknowledgedBefore = false

/-- A call relies on that its message is not acknowledged before the transport says so. -/
def SendRelies : MailPoint → CampaignMailDb → Prop
  | .deliver _ (.claimed message _ _), db | .deliver _ (.sending message _), db
  | .deliver _ (.recording message _ none _), db => message.id ∉ db.trace.acknowledged
  | .deliver _ (.marking _ _ mark), _ => mark.status ≠ .pending
  | _, _ => True

/-- An update of a message that is not acknowledged, or that leaves it not waiting. -/
theorem SendBooks.updateMessage (h : SendBooks db) (id : Nat) {f : EmailMessage → EmailMessage}
    (hf : ∀ row, (f row).id = row.id)
    (hstatus : id ∈ db.trace.acknowledged → ∀ row ∈ db.messages, row.id = id → row.status ≠ .pending →
      (f row).status ≠ .pending) : SendBooks (db.updateMessage id f) := by
  refine ⟨fun other hother => ?_, h.notAgain⟩
  obtain ⟨m, hm, rfl, hm'⟩ := h.acknowledged other hother
  by_cases hid : m.id = id
  · refine ⟨f m, (Table.mem_updateWhere hf).mpr ⟨m, hm, ?_⟩, hf m, hstatus (hid ▸ hother) m hm hid hm'⟩
    rw [if_pos (decide_eq_true hid)]
  · refine ⟨m, (Table.mem_updateWhere hf).mpr ⟨m, hm, ?_⟩, rfl, hm'⟩
    rw [if_neg fun h => hid (of_decide_eq_true h)]

theorem DeliveryStep.sends {call : Option TrackingId} {p q : DeliveryPoint} (h : DeliveryStep config db p db' q)
    (hok : MarkedInTime config (.deliver call p) db) (howns : ∀ id ∈ p.owns, InDelivery id db)
    (hp : SendRelies (.deliver call p) db) (hbooks : SendBooks db) :
    SendBooks db' ∧ SendRelies (.deliver call q) db' := by
  cases h with
  | @claims message due row hrow hsame hpending =>
    refine ⟨hbooks.updateMessage _ (fun _ => rfl) fun _ _ _ _ _ => EmailStatus.noConfusion, fun hack => ?_⟩
    obtain ⟨m, hm, hmid, hnot⟩ := hbooks.acknowledged _ hack
    obtain rfl := Table.eq_of_key_eq hm hrow (hmid.trans hsame.symm)
    exact hnot hpending
  | hands =>
    refine ⟨⟨hbooks.acknowledged, fun h hh => ?_⟩, hp⟩
    rcases List.mem_cons.mp hh with rfl | hh
    · exact decide_eq_false hp
    · exact hbooks.notAgain h hh
  | @accepts message due outcome now =>
    refine ⟨⟨fun id hid => ?_, hbooks.notAgain⟩, message.mark_status outcome now⟩
    rcases List.mem_cons.mp hid with rfl | hid
    · obtain ⟨m, hm, hmid, hstatus⟩ := howns _ List.mem_cons_self
      exact ⟨m, hm, hmid, by rw [hstatus]; decide⟩
    · exact hbooks.acknowledged id hid
  | refuses => exact ⟨hbooks, hp⟩
  | @marks message due mark =>
    refine ⟨hbooks.updateMessage _ (fun _ => rfl) fun _ row _ _ hrow => ?_, trivial⟩
    rcases EmailMessage.save_cases config message.status mark.status row.status with hsave | hsave
    · exact fun h => hrow (hsave.symm.trans h)
    · exact fun h => hp (hsave.symm.trans h)
  | fails => exact ⟨hbooks, trivial⟩
  | @records message due mark error now =>
    refine ⟨hbooks.updateMessage _ (EmailMessage.recorded_id _ _ _ _) fun hack row _ _ _ => ?_, trivial⟩
    cases mark with
    | none => exact absurd hack hp
    | some mark =>
      have hfailed : message.statusAfterError config (some mark) = .failed := if_pos hok
      simp only [EmailMessage.recorded, hfailed]
      decide
  | reads | passes => exact ⟨hbooks, trivial⟩

/-- The other calls of a step that acknowledges nothing. -/
theorem SendRelies.same {x : MailPoint} (hx : SendRelies x db) (h : db'.trace.acknowledged = db.trace.acknowledged) :
    SendRelies x db' := by
  rcases x with _ | ⟨call, _ | due | ⟨m, due, b⟩ | ⟨m, due⟩ | ⟨m, due, mark⟩ | ⟨m, due, _ | mark, error⟩⟩ | _
  case deliver.claimed | deliver.sending | deliver.recording.none => exact fun hack => hx (h ▸ hack)
  case deliver.marking => exact hx
  all_goals trivial

/-- What other calls rely on: a call acknowledges only a message of its own. -/
theorem DeliveryStep.sends_others {p q : DeliveryPoint} {x : MailPoint} (h : DeliveryStep config db p db' q)
    (howns : ∀ id ∈ p.owns, id ∉ x.owns) (hx : SendRelies x db) : SendRelies x db' := by
  cases h with
  | @accepts message due outcome now =>
    have hnot := howns message.id List.mem_cons_self
    have hkeeps : ∀ id ∈ x.owns, id ∉ db.trace.acknowledged → id ∉ message.id :: db.trace.acknowledged := by
      intro id hid hack hmem
      rcases List.mem_cons.mp hmem with rfl | hmem
      · exact hnot hid
      · exact hack hmem
    rcases x with _ | ⟨call, _ | due' | ⟨m, due', b⟩ | ⟨m, due'⟩ | ⟨m, due', mark⟩ | ⟨m, due', _ | mark, error⟩⟩ | _
    case deliver.claimed | deliver.sending | deliver.recording.none => exact hkeeps _ List.mem_cons_self hx
    case deliver.marking => exact hx
    all_goals trivial
  | reads | claims | passes | hands | refuses | marks | fails | records => exact hx.same rfl

theorem SendBooks.insert (h : SendBooks db) (mk : Nat → EmailMessage) (hmk : ∀ k, (mk k).id = k) :
    SendBooks { db with messages := db.messages.create mk } :=
  ⟨fun id hid => (h.acknowledged id hid).imp fun _ ⟨hm, hrest⟩ => ⟨Table.mem_create_of_mem hmk hm, hrest⟩, h.notAgain⟩

theorem EnqueueStep.sends {p : EnqueuePoint} {q : Option MailPoint} (h : EnqueueStep db p db' q) (hbooks : SendBooks db) :
    SendBooks db' ∧ ∀ p' ∈ q, SendRelies p' db' := by
  cases h with
  | inserts =>
    refine ⟨hbooks.insert _ fun _ => rfl, fun p' hp' => ?_⟩
    obtain rfl := Option.some.inj hp'
    trivial
  | begins | skips | checks | delivers =>
    refine ⟨⟨hbooks.acknowledged, hbooks.notAgain⟩, fun p' hp' => ?_⟩
    obtain rfl := Option.some.inj hp'
    trivial
  | returns | waits =>
    exact ⟨⟨hbooks.acknowledged, hbooks.notAgain⟩, fun p' hp' => absurd hp' (Option.not_mem_none p')⟩

theorem send_promises :
    (mailWorkers config).Promises (Workers.Owned MailPoint.owns InDelivery) (MailsWhole config t recipients) SendBooks
      SendRelies where
  start {S task p} _ _ hstart := by
    cases task with
    | enqueue call =>
      simp only [mailWorkers] at hstart
      split at hstart
      · obtain rfl := Option.some.inj hstart
        trivial
      · cases hstart
    | processDue | suppress input =>
      obtain rfl := Option.some.inj hstart
      trivial
  next {S w answer p store q} howned hkeeps hfind hok hnext := by
    have hbooks := hkeeps.store
    cases mailWorkers_next hnext with
    | enqueues step => exact step.sends hbooks
    | delivers step =>
      obtain ⟨hstore, hq⟩ := step.sends (hok.2 _ hfind) (fun _ => howned.at hfind) (hkeeps.at hfind) hbooks
      refine ⟨hstore, fun p' hp' => ?_⟩
      obtain rfl := Option.some.inj hp'
      exact hq
    | returns | ends =>
      exact ⟨⟨hbooks.acknowledged, hbooks.notAgain⟩, fun p' hp' => absurd hp' (Option.not_mem_none p')⟩
    | finds step =>
      refine ⟨by cases step; exact hbooks, fun p' hp' => ?_⟩
      obtain rfl := Option.some.inj hp'
      trivial
    | suppresses step =>
      exact ⟨by cases step <;> exact ⟨hbooks.acknowledged, hbooks.notAgain⟩,
        fun p' hp' => absurd hp' (Option.not_mem_none p')⟩
  stable {S w answer p store q} howned hkeeps hfind _ hnext x hx := by
    have hrelies := hkeeps.worker x (Sessions.mem_others.mp hx).1
    cases mailWorkers_next hnext with
    | enqueues step => cases step <;> exact hrelies.same rfl
    | delivers step => exact step.sends_others (fun id hid => howned.others hfind hid hx) hrelies
    | returns | ends => exact hrelies.same rfl
    | finds step | suppresses step => cases step <;> exact hrelies.same rfl
  outside {S event} := event.elim

end Sends

/-- **Campaign e-mail is complete, and it is not sent again**: in every interleaving in which the calls with a key meet
the condition and no mark fails before the last attempt. -/
theorem mailedOnce {config : MailConfig} {t : TrackingId} {recipients : List EmailRecipient}
    (hdistinct : (recipients.map EmailRecipient.address).Nodup) {S : MailState}
    (h : (campaignMail config).Reachable (MailsWhole config t recipients) S) :
    MailedOnce t recipients S.committed := by
  have hbatchInit : ∀ db, NoMailYet db → BatchBooks t recipients db := by
    rintro db ⟨hnone, htrace, -⟩
    have hmailed : ∀ address, db.mailed t address = 0 := fun address =>
      CampaignMailDb.mailed_eq_zero (fun ⟨m, hm, _⟩ => Table.not_mem_empty m (hnone ▸ hm)) address
    refine ⟨by simp [htrace], fun address => (hmailed address).trans_le (Nat.zero_le 1),
      fun address haddress => absurd (hmailed address) haddress, by simp [htrace], by simp [htrace]⟩
  have hsendInit : ∀ db, NoMailYet db → SendBooks db := by
    rintro db ⟨-, htrace, -⟩
    exact ⟨by simp [htrace], by simp [htrace]⟩
  have hbatch := (Workers.keeps (batch_promises hdistinct) hbatchInit (fun _ => batch_alone) h).store
  have hsend := (Workers.keeps send_promises hsendInit (fun _ => Workers.owned (mailClaims config)) h).store
  exact ⟨hbatch.one, hbatch.atMost, hbatch.free, hsend.notAgain⟩

/-! ## A call that stops between two recipients -/

section Examples

def mailDefaults : MailConfig := ⟨3, 60000, false⟩

def mailedCampaign : CampaignMailDb :=
  ⟨[1], .empty, Table.empty.create fun id => ⟨id, "b@example.com", .unsubscribe, none, true⟩, ⟨[], [], [], [], []⟩⟩

def mailTo (email : String) : EmailRecipient := ⟨email, none, ⟨"Hola", "<p>Hola</p>", none⟩⟩

/-- A call that sends now. -/
def enqueueNow (recipients : List EmailRecipient) : EnqueueCall := ⟨1, "k", none, recipients⟩

/-- The transport takes what it gets, and no update fails. -/
def mailTick (now : Instant) : MailAnswer := ⟨now, .ok ⟨false, "m"⟩, .ok ()⟩

/-- The transport takes the message, and its mark fails. -/
def markLost : MailAnswer := ⟨0, .ok ⟨false, "m"⟩, .error "Connection terminated"⟩

theorem mailedCampaign_init : (campaignMail mailDefaults).init ⟨mailedCampaign, []⟩ :=
  ⟨⟨rfl, rfl, by decide +kernel⟩, rfl⟩

/-- A call that queues and sends, and its repetition. -/
theorem mailedOnce_of_turns :
    let recipients := [mailTo "a@example.com", mailTo "B@example.com"]
    let S := (campaignMail mailDefaults).afterIf (MailsWhole mailDefaults ⟨1, "k"⟩ recipients) ⟨mailedCampaign, []⟩
      (.start 0 (.enqueue (enqueueNow recipients)) :: List.replicate 11 (.go 0 (mailTick 0)) ++
        [.start 1 (.enqueue (enqueueNow recipients)), .go 1 (mailTick 5)])
    S.committed.trace.enqueued.length = 2 ∧ S.committed.trace.acknowledged = [1] ∧
      MailedOnce ⟨1, "k"⟩ recipients S.committed :=
  ⟨by decide +kernel, by decide +kernel, mailedOnce (by decide +kernel)
    ((campaignMail mailDefaults).reachable_afterIf (MailsWhole mailDefaults _ _) mailedCampaign_init _)⟩

def twoRecipients : List EmailRecipient := [mailTo "a@example.com", mailTo "c@example.com"]

def twoRecipientsKey : TrackingId := ⟨1, "k"⟩

/-- A call stops after its first recipient; its repetition returns. -/
def stoppedBatch : MailState :=
  (campaignMail mailDefaults).after ⟨mailedCampaign, []⟩
    (.start 0 (.enqueue (enqueueNow twoRecipients)) :: List.replicate 3 (.go 0 (mailTick 0)) ++
      [.die 0, .start 1 (.enqueue (enqueueNow twoRecipients)), .go 1 (mailTick 5)])

/-- Two calls count at once. -/
def countedTwice : MailState :=
  (campaignMail mailDefaults).after ⟨mailedCampaign, []⟩
    ([.start 0 (.enqueue (enqueueNow twoRecipients)), .start 1 (.enqueue (enqueueNow twoRecipients))] ++
      [.go 0 (mailTick 0), .go 1 (mailTick 0)] ++ List.replicate 2 (.go 0 (mailTick 0)) ++
      List.replicate 2 (.go 1 (mailTick 0)))

/-- The transport takes a message, and its mark fails; the message is sent again. -/
def sentAgain : MailState :=
  (campaignMail mailDefaults).after ⟨mailedCampaign, []⟩
    (.start 0 (.enqueue (enqueueNow [mailTo "a@example.com"])) :: List.replicate 8 (.go 0 (mailTick 0)) ++
      [.go 0 markLost, .go 0 (mailTick 0), .start 1 .processDue] ++ List.replicate 3 (.go 1 (mailTick 60000)))

/-- The second recipient has no message when the repetition returns; the first recipient has two; and what was
acknowledged is handed over again. -/
theorem mailedOnce_counterexample :
    (twoRecipients.map EmailRecipient.address).Nodup ∧
      ((campaignMail mailDefaults).Reachable (fun _ _ => True) stoppedBatch ∧
        stoppedBatch.committed.trace.enqueued = [⟨twoRecipientsKey, ["b@example.com"]⟩] ∧
        stoppedBatch.committed.mailed twoRecipientsKey "c@example.com" = 0 ∧
        ¬ MailedOnce twoRecipientsKey twoRecipients stoppedBatch.committed) ∧
      ((campaignMail mailDefaults).Reachable (fun _ _ => True) countedTwice ∧
        countedTwice.committed.mailed twoRecipientsKey "a@example.com" = 2 ∧
        ¬ MailedOnce twoRecipientsKey twoRecipients countedTwice.committed) ∧
      (campaignMail mailDefaults).Reachable (fun _ _ => True) sentAgain ∧
      sentAgain.committed.trace.handed =
        [⟨1, "a@example.com", ["b@example.com"], true⟩, ⟨1, "a@example.com", ["b@example.com"], false⟩] ∧
      ¬ MailedOnce twoRecipientsKey [mailTo "a@example.com"] sentAgain.committed := by
  have hmissing : stoppedBatch.committed.mailed twoRecipientsKey "c@example.com" = 0 := by decide +kernel
  have htwice : countedTwice.committed.mailed twoRecipientsKey "a@example.com" = 2 := by decide +kernel
  refine ⟨by decide +kernel, ⟨Machine.reachable_after _ mailedCampaign_init _, by decide +kernel, hmissing, fun h => ?_⟩,
    ⟨Machine.reachable_after _ mailedCampaign_init _, htwice, fun h => ?_⟩,
    Machine.reachable_after _ mailedCampaign_init _, by decide +kernel, fun h => ?_⟩
  · have haddress : (mailTo "c@example.com").address = "c@example.com" := by decide +kernel
    have hone := h.one ⟨twoRecipientsKey, ["b@example.com"]⟩ (by decide +kernel) rfl (mailTo "c@example.com")
      (by decide +kernel) (by decide +kernel)
    rw [haddress, hmissing] at hone
    cases hone
  · exact absurd (htwice.symm.trans_le (h.atMost _)) (by decide)
  · exact absurd (h.notAgain ⟨1, "a@example.com", ["b@example.com"], true⟩ (by decide +kernel)) (by decide)

end Examples

end AtlasErp
