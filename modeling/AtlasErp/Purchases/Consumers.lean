import AtlasErp.Lib.Workers
import AtlasErp.Purchases.Register

/-! # One consumer per document

The consumer of a purchase is looked for by the document and otherwise inserted, inside the transaction of the
purchase: what it inserts is not seen until the purchase commits, and nothing is locked but its key.

- `registerPurchase_eq`: the purchase, statement by statement;
- `purchaseMachine`: registrations in any interleaving, while others change anything but the consumers;
- `SinOtroCliente`: a consumer is committed beside none that carries its document;
- `oneConsumer_of_reachable`: that is enough, and at each commit it is needed. -/

namespace AtlasErp

open Lib

/-! ## The statements of a purchase -/

section Statements

variable (db : PurchaseDb) (input : RegisterPurchaseDto)

/-- The account of a purchase is a customer. -/
def assertCustomer : Except HttpError Unit := do
  let account ← orFail (db.accounts.find? input.merchantAccountId) (notFound "Cuenta B2B no encontrada.")
  failIf (account.lifecycleStatus ≠ .customer) ⟨.forbidden, none, "El comercio no está activo como CUSTOMER."⟩

/-- Its branch may originate. -/
def assertBranch : Except HttpError Unit :=
  failIf ((db.branches.findBy fun branch => branch.id = input.branchId ∧ branch.accountId = input.merchantAccountId).all
      fun branch => branch.status ≠ .active ∨ branch.canOriginateBnpl = false)
    ⟨.forbidden, none, "La sucursal no está habilitada para originar BNPL."⟩

/-- What the query of the consumer answers: the consumer, or none yet. -/
def findConsumer : Except HttpError (Option Nat) :=
  match input.consumerId with
  | some id => .ok ((db.consumers.find? id).map (·.id))
  | none => do
    let externalRef ← orFail (trimmedText input.consumerExternalRef)
      (conflictText "Indique el documento del cliente o su identificador en Atlas.")
    return (db.consumers.findBy (·.externalRef = some externalRef)).map (·.id)

/-- The consumer that is inserted; one without an identifier gets a new one. -/
def newConsumer (newId : Nat) : ConsumerRef :=
  match input.consumerId with
  | some id => ⟨id, input.consumerExternalRef⟩
  | none => ⟨newId, trimmedText input.consumerExternalRef⟩

/-- The writes of a purchase, once its consumer, its version and its commission are known. -/
def writePurchase (split : PurchaseSplit) (consumerId : Nat) (version : CommercialVersion) (riskTier : Option String)
    (mdr : PurchaseMdr) (now : Instant) : Except HttpError ((BnplPurchase × MerchantReceivable) × PurchaseDb) := do
  let purchase := newPurchase input split consumerId version riskTier mdr db.purchases.nextKey
  let db := { db with
    purchases := db.purchases.create (newPurchase input split consumerId version riskTier mdr)
    consumerPayments := db.consumerPayments.create (downPaymentNotice input split purchase.id now) }
  let db ← (input.installments.zip split.installments).foldlM (createInstallment input purchase.id) db
  let receivable := mdrReceivable input db.products mdr purchase.id
  return ((purchase, receivable db.receivables.nextKey), { db with receivables := db.receivables.create receivable })

/-- **A purchase, statement by statement.** -/
theorem registerPurchase_eq (now : Instant) :
    registerPurchase db input now = (do
      assertCustomer db input
      assertBranch db input
      assertPurchaseSplit input
      let split ← liftMoney (parsePurchaseSplit input)
      let (consumerId, db) ← resolveConsumerId db input
      let version ← orFail (findActiveContractVersion db input.merchantAccountId (now / 86400000))
        (conflictText "El comercio no tiene versión contractual activa para la fecha de compra.")
      let riskTier := resolveRiskTier db input.consumerExternalRef
      let mdr ← mdrOf db version input riskTier
      writePurchase db input split consumerId version riskTier mdr now) := by
  simp only [registerPurchase, assertCustomer, assertBranch, writePurchase, bind_assoc]

end Statements

/-! ## Registrations in any interleaving -/

/-- A purchase whose consumer is known, and the consumer that its transaction has inserted. -/
structure ResolvedPurchase where
  input : RegisterPurchaseDto
  split : PurchaseSplit
  consumerId : Nat
  inserted : Option ConsumerRef

/-- What the transaction of a purchase does next. -/
inductive PurchasePoint where
  | branch (input : RegisterPurchaseDto)
  | finding (input : RegisterPurchaseDto) (split : PurchaseSplit)
  | inserting (input : RegisterPurchaseDto) (split : PurchaseSplit)
  | resolved (r : ResolvedPurchase)
  /-- With the tables as the query of the version read them. -/
  | contracted (r : ResolvedPurchase) (version : CommercialVersion) (read : PurchaseDb)
  | priced (r : ResolvedPurchase) (version : CommercialVersion) (riskTier : Option String) (mdr : PurchaseMdr)

/-- The clock, and the identifier that a new consumer would get. -/
structure PurchaseAnswer where
  now : Instant
  newId : Nat
  deriving DecidableEq

/-- The tables, and the purchases that were registered, each with its request. -/
structure Registrations where
  db : PurchaseDb
  registered : List (RegisterPurchaseDto × BnplPurchase)

/-- The transaction goes on, or ends with nothing written. -/
def Registrations.goOn (s : Registrations) (outcome : Except HttpError PurchasePoint) :
    Registrations × Option PurchasePoint := (s, outcome.toOption)

/-- The writes of a transaction, on what is committed. -/
def ResolvedPurchase.write (r : ResolvedPurchase) (version : CommercialVersion) (riskTier : Option String)
    (mdr : PurchaseMdr) (db : PurchaseDb) (now : Instant) :
    Option ((BnplPurchase × MerchantReceivable) × PurchaseDb) := do
  let consumers ← db.consumers.append? r.inserted.toList
  (writePurchase { db with consumers } r.input r.split r.consumerId version riskTier mdr now).toOption

/-- An insert of a consumer, and what follows when its key is there: `findOrCreate` takes the row that is there. -/
def insertConsumer (db : PurchaseDb) (input : RegisterPurchaseDto) (split : PurchaseSplit) (newId : Nat) :
    Except HttpError PurchasePoint :=
  let row := newConsumer input newId
  match db.consumers.find? row.id, input.consumerId with
  | none, _ => .ok (.resolved ⟨input, split, row.id, some row⟩)
  | some _, some _ => .ok (.resolved ⟨input, split, row.id, none⟩)
  | some _, none => .error ⟨.internalServerError, none, "consumers_ref_pkey"⟩

def PurchasePoint.next (answer : PurchaseAnswer) (s : Registrations) :
    PurchasePoint → Registrations × Option PurchasePoint
  | .branch input => s.goOn do
    assertBranch s.db input
    assertPurchaseSplit input
    return .finding input (← liftMoney (parsePurchaseSplit input))
  | .finding input split => s.goOn do
    match ← findConsumer s.db input with
    | some id => return .resolved ⟨input, split, id, none⟩
    | none => return .inserting input split
  | .inserting input split => s.goOn (insertConsumer s.db input split answer.newId)
  | .resolved r => s.goOn do
    let version ← orFail (findActiveContractVersion s.db r.input.merchantAccountId (answer.now / 86400000))
      (conflictText "El comercio no tiene versión contractual activa para la fecha de compra.")
    return .contracted r version s.db
  | .contracted r version read => s.goOn do
    let riskTier := resolveRiskTier s.db r.input.consumerExternalRef
    return .priced r version riskTier (← mdrOf read version r.input riskTier)
  | .priced r version riskTier mdr =>
    match r.write version riskTier mdr s.db answer.now with
    | some (registered, db) => (⟨db, s.registered ++ [(r.input, registered.1)]⟩, none)
    | none => (s, none)

/-- The consumer that a transaction has inserted and not committed. -/
def PurchasePoint.inserted : PurchasePoint → Option ConsumerRef
  | .branch _ | .finding .. | .inserting .. => none
  | .resolved r | .contracted r .. | .priced r .. => r.inserted

/-- Registrations of purchases.  Others change any table but the consumers. -/
def purchaseWorkers : Workers Registrations RegisterPurchaseDto PurchaseAnswer PurchaseDb Nat PurchasePoint where
  start input s := if (assertCustomer s.db input).isOk then some (.branch input) else none
  holds p := p.inserted.toList.map (·.id)
  next p answer s := some (p.next answer s)
  outside db s := some { s with db := { db with consumers := s.db.consumers } }

/-- **A document is stored on one consumer.** -/
def OneConsumer (db : PurchaseDb) : Prop :=
  ∀ c ∈ db.consumers, ∀ c' ∈ db.consumers, ∀ ref, trimmedText c.externalRef = some ref →
    trimmedText c'.externalRef = some ref → c = c'

/-- **Purchases with one document** and no identifier belong to one consumer. -/
def SameConsumer (s : Registrations) : Prop :=
  ∀ x ∈ s.registered, ∀ y ∈ s.registered, x.1.consumerId = none → y.1.consumerId = none →
    trimmedText x.1.consumerExternalRef = trimmedText y.1.consumerExternalRef → x.2.consumerId = y.2.consumerId

abbrev PurchaseAct := WorkerAct RegisterPurchaseDto PurchaseAnswer PurchaseDb

/-- Any interleaving, from tables where no document is stored twice. -/
def purchaseMachine : Machine (Sessions Registrations PurchasePoint) PurchaseAct :=
  purchaseWorkers.machine fun s => OneConsumer s.db ∧ s.registered = []

/-! ## The condition -/

/-- No committed consumer carries the document of a new one. -/
def PurchaseDb.sinCliente (db : PurchaseDb) (row : ConsumerRef) : Bool :=
  (trimmedText row.externalRef).all fun ref =>
    (db.consumers.findBy fun c => trimmedText c.externalRef = some ref).isNone

/-- A consumer that a transaction commits is beside none of its document. -/
def PurchasePoint.sinOtro (now : Instant) (db : PurchaseDb) : PurchasePoint → Bool
  | .priced r version riskTier mdr =>
    (r.write version riskTier mdr db now).isNone || r.inserted.all db.sinCliente
  | _ => true

/-- **When a purchase commits a consumer**, no committed consumer carries its document. -/
def SinOtroCliente (S : Sessions Registrations PurchasePoint) : PurchaseAct → Prop
  | .go w answer => ∀ p ∈ S.find? w, p.sinOtro answer.now S.committed.db = true
  | _ => True

instance (S : Sessions Registrations PurchasePoint) : DecidablePred (SinOtroCliente S)
  | .go _ _ => inferInstanceAs (Decidable (∀ p ∈ _, _))
  | .start .. | .die _ | .outside _ => .isTrue trivial

/-! ## What each statement does -/

section Steps

variable {db db' : PurchaseDb} {s s' : Registrations} {p : PurchasePoint} {q : Option PurchasePoint}
  {answer : PurchaseAnswer} {r : ResolvedPurchase} {input : RegisterPurchaseDto}

/-- What is left of a text that was trimmed. -/
theorem trimmedText_trimmed {text : Option String} {ref : String} (h : trimmedText text = some ref) :
    trimmedText (some ref) = some ref := by
  obtain ⟨hmap, hne⟩ := Option.filter_eq_some_iff.mp h
  obtain ⟨text, -, rfl⟩ := Option.map_eq_some_iff.mp hmap
  refine Option.filter_eq_some_iff.mpr ⟨?_, hne⟩
  rw [Option.map_some, String.toList_ofList, trim_trim]

theorem sinCliente_iff {row : ConsumerRef} : db.sinCliente row = true ↔
    ∀ ref, trimmedText row.externalRef = some ref → ∀ c ∈ db.consumers, trimmedText c.externalRef ≠ some ref := by
  unfold PurchaseDb.sinCliente
  rw [Option.all_eq_true]
  refine forall₂_congr fun ref _ => ?_
  rw [Option.isNone_iff_eq_none, Table.findBy_eq_none]
  exact forall₂_congr fun c _ => decide_eq_false_iff_not

/-- The purchase that is written is of the consumer that was resolved, and no consumer is written. -/
theorem writePurchase_consumers {split : PurchaseSplit} {consumerId : Nat} {version : CommercialVersion}
    {riskTier : Option String} {mdr : PurchaseMdr} {now : Instant} {registered : BnplPurchase × MerchantReceivable}
    (h : writePurchase db input split consumerId version riskTier mdr now = .ok (registered, db')) :
    registered.1.consumerId = consumerId ∧ db'.consumers = db.consumers := by
  unfold writePurchase at h
  obtain ⟨middle, hinstallments, h⟩ := bind_eq_ok.mp h
  obtain ⟨installments, coreLinks, rfl⟩ := createInstallments_frame hinstallments
  obtain ⟨rfl, rfl⟩ := Prod.mk.inj (pure_eq_ok.mp h)
  exact ⟨rfl, rfl⟩

/-- **What a commit writes**: the purchase of its consumer, and the consumer that it has inserted. -/
theorem write_eq_some {version : CommercialVersion} {riskTier : Option String} {mdr : PurchaseMdr} {now : Instant}
    {registered : BnplPurchase × MerchantReceivable}
    (h : r.write version riskTier mdr db now = some (registered, db')) :
    registered.1.consumerId = r.consumerId ∧ db.consumers.append? r.inserted.toList = some db'.consumers := by
  obtain ⟨consumers, happend, h⟩ := Option.bind_eq_some_iff.mp h
  obtain ⟨hconsumer, hsame⟩ := writePurchase_consumers (toOption_eq_some.mp h)
  exact ⟨hconsumer, by rw [happend, hsame]⟩

/-- A consumer of these carries the document of a purchase that names no identifier. -/
def BelongsTo (consumers : ConsumerRef → Prop) (input : RegisterPurchaseDto) (consumerId : Nat) : Prop :=
  input.consumerId = none → ∃ ref c, trimmedText input.consumerExternalRef = some ref ∧ consumers c ∧
    c.id = consumerId ∧ c.externalRef = some ref

theorem BelongsTo.mono {consumers consumers' : ConsumerRef → Prop} {consumerId : Nat}
    (h : BelongsTo consumers input consumerId) (hle : ∀ c, consumers c → consumers' c) :
    BelongsTo consumers' input consumerId := by
  intro hnone
  obtain ⟨ref, c, href, hc, hid, hexternal⟩ := h hnone
  exact ⟨ref, c, href, hle c hc, hid, hexternal⟩

/-- What the transaction of a purchase knows of its consumer. -/
def ResolvedPurchase.Belongs (r : ResolvedPurchase) (db : PurchaseDb) : Prop :=
  BelongsTo (fun c => c ∈ db.consumers ∨ c ∈ r.inserted.toList) r.input r.consumerId

/-- What a transaction relies on at each point. -/
def PurchasePoint.Relies (s : Registrations) : PurchasePoint → Prop
  | .branch _ | .finding .. => True
  | .inserting input _ => input.consumerId = none → ∃ ref, trimmedText input.consumerExternalRef = some ref
  | .resolved r | .contracted r .. | .priced r .. => r.Belongs s.db

/-- The consumers that were there stay. -/
theorem PurchasePoint.Relies.mono (h : p.Relies s) (hle : ∀ c ∈ s.db.consumers, c ∈ s'.db.consumers) :
    p.Relies s' := by
  cases p with
  | branch | finding => trivial
  | inserting => exact h
  | resolved | contracted | priced => exact BelongsTo.mono h fun c hc => hc.imp_left (hle c)

/-- **What a step does**: nothing to the tables, or the commit of a purchase. -/
inductive PurchaseStep (s : Registrations) (answer : PurchaseAnswer) :
    PurchasePoint → Registrations → Option PurchasePoint → Prop where
  | reads {p : PurchasePoint} {q : Option PurchasePoint} (quiet : p.sinOtro answer.now s.db = true)
      (relies : p.Relies s → ∀ p' ∈ q, p'.Relies s) : PurchaseStep s answer p s q
  | commits {r version riskTier mdr registered db'}
      (wrote : r.write version riskTier mdr s.db answer.now = some (registered, db')) :
      PurchaseStep s answer (.priced r version riskTier mdr) ⟨db', s.registered ++ [(r.input, registered.1)]⟩ none

theorem PurchaseStep.goOn {outcome : Except HttpError PurchasePoint} (hquiet : p.sinOtro answer.now s.db = true)
    (h : p.Relies s → ∀ p', outcome = .ok p' → p'.Relies s) :
    PurchaseStep s answer p (s.goOn outcome).1 (s.goOn outcome).2 :=
  .reads hquiet fun hp p' hp' => h hp p' (toOption_eq_some.mp hp')

/-- What the query of the consumer tells. -/
theorem relies_of_findConsumer {found : Option Nat} (h : findConsumer db input = .ok found) :
    (∀ id ∈ found, BelongsTo (· ∈ db.consumers) input id) ∧
      (input.consumerId = none → ∃ ref, trimmedText input.consumerExternalRef = some ref) := by
  unfold findConsumer at h
  cases hid : input.consumerId with
  | some id => exact ⟨fun _ _ hnone => absurd (hid.symm.trans hnone) (by simp), fun hnone => absurd hnone (by simp)⟩
  | none =>
    rw [hid] at h
    obtain ⟨ref, href, h⟩ := orFail_bind_eq_ok.mp h
    obtain rfl := pure_eq_ok.mp h
    refine ⟨fun id hfound _ => ?_, fun _ => ⟨ref, href⟩⟩
    obtain ⟨c, hfind, rfl⟩ := Option.map_eq_some_iff.mp hfound
    obtain ⟨hc, hexternal⟩ := Table.findBy_eq_some hfind
    exact ⟨ref, c, href, hc, rfl, of_decide_eq_true hexternal⟩

theorem belongs_newConsumer {newId : Nat} {split : PurchaseSplit} {s : Registrations}
    (h : (PurchasePoint.inserting input split).Relies s) :
    BelongsTo (· = newConsumer input newId) input (newConsumer input newId).id := by
  intro hnone
  obtain ⟨ref, href⟩ := h hnone
  refine ⟨ref, _, href, rfl, rfl, ?_⟩
  rw [newConsumer, hnone]
  exact href

theorem relies_of_insertConsumer {split : PurchaseSplit} {newId : Nat}
    (hrelies : (PurchasePoint.inserting input split).Relies s)
    (h : insertConsumer s.db input split newId = .ok p) : p.Relies s := by
  simp only [insertConsumer] at h
  split at h
  · obtain rfl := Except.ok.inj h
    exact (belongs_newConsumer hrelies).mono fun c hc => .inr (by rw [hc]; exact List.mem_singleton.mpr rfl)
  · next hid =>
    obtain rfl := Except.ok.inj h
    exact fun hnone => absurd (hid.symm.trans hnone) (by simp)
  · cases h

theorem step_of_next (s : Registrations) (answer : PurchaseAnswer) (p : PurchasePoint) :
    PurchaseStep s answer p (p.next answer s).1 (p.next answer s).2 := by
  cases p with
  | branch input =>
    refine .goOn rfl fun _ p' h => ?_
    obtain ⟨-, -, h⟩ := bind_eq_ok.mp h
    obtain ⟨-, -, h⟩ := bind_eq_ok.mp h
    obtain ⟨split, -, h⟩ := bind_eq_ok.mp h
    obtain rfl := pure_eq_ok.mp h
    trivial
  | finding input split =>
    refine .goOn rfl fun _ p' h => ?_
    obtain ⟨found, hfound, h⟩ := bind_eq_ok.mp h
    obtain ⟨hbelongs, hinserting⟩ := relies_of_findConsumer hfound
    cases found with
    | some id =>
      obtain rfl := pure_eq_ok.mp h
      exact (hbelongs id rfl).mono fun c hc => .inl hc
    | none =>
      obtain rfl := pure_eq_ok.mp h
      exact hinserting
  | inserting input split => exact .goOn rfl fun hrelies p' h => relies_of_insertConsumer hrelies h
  | resolved r =>
    refine .goOn rfl fun hrelies p' h => ?_
    obtain ⟨version, -, h⟩ := orFail_bind_eq_ok.mp h
    obtain rfl := pure_eq_ok.mp h
    exact hrelies
  | contracted r version read =>
    refine .goOn rfl fun hrelies p' h => ?_
    obtain ⟨mdr, -, h⟩ := bind_eq_ok.mp h
    obtain rfl := pure_eq_ok.mp h
    exact hrelies
  | priced r version riskTier mdr =>
    simp only [PurchasePoint.next]
    split
    · next h => exact .commits h
    · next h => exact .reads (by rw [PurchasePoint.sinOtro, h]; rfl) fun _ p' hp' => absurd hp' (Option.not_mem_none p')

variable {version : CommercialVersion} {riskTier : Option String} {mdr : PurchaseMdr} {now : Instant}
  {registered : BnplPurchase × MerchantReceivable}

/-- A consumer that is committed beside none of its document. -/
theorem OneConsumer.commit (h : OneConsumer db) (hwrite : r.write version riskTier mdr db now = some (registered, db'))
    (halone : r.inserted.all db.sinCliente = true) : OneConsumer db' := by
  have hmem := fun c => Table.mem_append? (write_eq_some hwrite).2 (x := c)
  have hnew : ∀ row ∈ r.inserted.toList, ∀ c ∈ db.consumers, ∀ ref, trimmedText row.externalRef = some ref →
      trimmedText c.externalRef ≠ some ref := fun row hrow c hc ref href =>
    sinCliente_iff.mp ((Option.all_eq_true _ _).mp halone row (Option.mem_toList.mp hrow)) ref href c hc
  intro c hc c' hc' ref href href'
  rcases (hmem c).mp hc with hold | hrow <;> rcases (hmem c').mp hc' with hold' | hrow'
  · exact h c hold c' hold' ref href href'
  · exact absurd href (hnew c' hrow' c hold ref href')
  · exact absurd href' (hnew c hrow c' hold' ref href)
  · exact Option.some.inj ((Option.mem_toList.mp hrow).symm.trans (Option.mem_toList.mp hrow'))

/-- And one that is committed beside another of its document. -/
theorem not_oneConsumer_of_commit (hwrite : r.write version riskTier mdr db now = some (registered, db'))
    (hother : r.inserted.all db.sinCliente ≠ true) : ¬ OneConsumer db' := by
  have happend := (write_eq_some hwrite).2
  intro hone
  refine hother ((Option.all_eq_true _ _).mpr fun row hrow => sinCliente_iff.mpr fun ref href c hc hc' => ?_)
  have hrow' : row ∈ r.inserted.toList := Option.mem_toList.mpr hrow
  obtain rfl : c = row := hone c ((Table.mem_append? happend).mpr (.inl hc)) row
    ((Table.mem_append? happend).mpr (.inr hrow')) ref hc' href
  exact Table.not_mem_of_append? happend hrow' hc

end Steps

/-! ## Runs -/

section Runs

/-- What every reachable state keeps. -/
structure Registrations.Kept (s : Registrations) : Prop where
  one : OneConsumer s.db
  belongs : ∀ x ∈ s.registered, BelongsTo (· ∈ s.db.consumers) x.1 x.2.consumerId

theorem Registrations.Kept.sameConsumer {s : Registrations} (h : s.Kept) : SameConsumer s := by
  intro x hx y hy hnone hnone' hsame
  obtain ⟨ref, c, href, hc, hid, hexternal⟩ := h.belongs x hx hnone
  obtain ⟨ref', c', href', hc', hid', hexternal'⟩ := h.belongs y hy hnone'
  obtain rfl : ref = ref' := Option.some.inj (href.symm.trans (hsame.trans href'))
  have htrimmed := trimmedText_trimmed href
  rw [← hid, ← hid', h.one c hc c' hc' ref (hexternal ▸ htrimmed) (hexternal' ▸ htrimmed)]

/-- The consumers that were there stay. -/
theorem PurchaseStep.consumers {s s' : Registrations} {answer : PurchaseAnswer} {p : PurchasePoint}
    {q : Option PurchasePoint} (h : PurchaseStep s answer p s' q) : ∀ c ∈ s.db.consumers, c ∈ s'.db.consumers := by
  cases h with
  | reads => exact fun c hc => hc
  | commits hwrite => exact fun c hc => (Table.mem_append? (write_eq_some hwrite).2).mpr (.inl hc)

/-- A step that leaves every document on one consumer meets the condition. -/
theorem PurchaseStep.sinOtro {s s' : Registrations} {answer : PurchaseAnswer} {p : PurchasePoint}
    {q : Option PurchasePoint} (h : PurchaseStep s answer p s' q) (hone : OneConsumer s'.db) :
    p.sinOtro answer.now s.db = true := by
  cases h with
  | reads hquiet => exact hquiet
  | commits hwrite =>
    by_contra hother
    rw [PurchasePoint.sinOtro, hwrite] at hother
    exact not_oneConsumer_of_commit hwrite hother hone

theorem Registrations.Kept.step {s s' : Registrations} {answer : PurchaseAnswer} {p : PurchasePoint}
    {q : Option PurchasePoint} (h : s.Kept) (hstep : PurchaseStep s answer p s' q) (hrelies : p.Relies s)
    (hok : p.sinOtro answer.now s.db = true) : s'.Kept := by
  have hconsumers := hstep.consumers
  cases hstep with
  | reads => exact h
  | @commits r version riskTier mdr registered db' hwrite =>
    obtain ⟨hconsumer, happend⟩ := write_eq_some hwrite
    have halone : r.inserted.all s.db.sinCliente = true := by
      rw [PurchasePoint.sinOtro, hwrite] at hok
      exact hok
    refine ⟨h.one.commit hwrite halone, fun x hx => ?_⟩
    rcases List.mem_append.mp hx with hx | hx
    · exact (h.belongs x hx).mono hconsumers
    · obtain rfl := List.mem_singleton.mp hx
      rw [hconsumer]
      exact BelongsTo.mono hrelies fun c hc => (Table.mem_append? happend).mpr hc

theorem purchaseStep_of_next {s s' : Registrations} {answer : PurchaseAnswer} {p : PurchasePoint}
    {q : Option PurchasePoint} (h : purchaseWorkers.next p answer s = some (s', q)) : PurchaseStep s answer p s' q := by
  have hstep := step_of_next s answer p
  rw [Option.some.inj h] at hstep
  exact hstep

theorem purchaseWorkers_promises :
    purchaseWorkers.Promises (fun _ => True) SinOtroCliente Registrations.Kept fun p s => p.Relies s where
  start _ _ hstart := by
    obtain ⟨-, h⟩ := Option.ite_none_right_eq_some.mp hstart
    obtain rfl := Option.some.inj h
    trivial
  next {S w answer p store q} _ hS hfind hok hnext := by
    have hstep := purchaseStep_of_next hnext
    refine ⟨hS.store.step hstep (hS.at hfind) (hok p hfind), ?_⟩
    cases hstep with
    | reads _ hrelies => exact hrelies (hS.at hfind)
    | commits => exact fun p' hp' => absurd hp' (Option.not_mem_none p')
  stable _ hS _ _ hnext x hx :=
    (hS.worker x (Sessions.mem_others.mp hx).1).mono (purchaseStep_of_next hnext).consumers
  outside _ hS _ hout := by
    obtain rfl := Option.some.inj hout
    exact ⟨⟨hS.store.one, hS.store.belongs⟩, fun x hx => (hS.worker x hx).mono fun c hc => hc⟩

/-- The merchant of `twoBands`, without requests. -/
def sinCompras : Sessions Registrations PurchasePoint := ⟨⟨twoBands, []⟩, []⟩

theorem oneConsumer_twoBands : OneConsumer twoBands := by
  have hone : ∀ c ∈ twoBands.consumers.rows, ∀ c' ∈ twoBands.consumers.rows, c = c' := by decide
  exact fun c hc c' hc' _ _ _ => hone c hc c' hc'

/-- Statements of a purchase; a consumer that it inserts gets this identifier. -/
def compra (w newId : Nat) (statements : Nat) : List PurchaseAct :=
  List.replicate statements (.go w ⟨1790000000000, newId⟩)

/-- Two purchases of customer 7002, who never bought, that look for the customer before either commits. -/
def dosPrimerasCompras : Sessions Registrations PurchasePoint :=
  purchaseMachine.after sinCompras (.start 0 (purchaseOf100 none (some "7002")) ::
    .start 1 (purchaseOf100 none (some " 7002 ")) :: (compra 0 2 2 ++ compra 1 3 2 ++ compra 0 2 4 ++ compra 1 3 4))

/-- The second purchase finds the customer that the first has committed. -/
def compraYVuelve : Sessions Registrations PurchasePoint :=
  purchaseMachine.afterIf SinOtroCliente sinCompras (.start 0 (purchaseOf100 none (some "7002")) ::
    (compra 0 2 6 ++ .start 1 (purchaseOf100 none (some " 7002 ")) :: compra 1 3 5))

end Runs

end AtlasErp
