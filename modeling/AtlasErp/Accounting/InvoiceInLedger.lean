import AtlasErp.Accounting.InvoiceBridge

/-! # An invoice in the ledger

- `SaleEntry`: the document under the key of an invoice, with its total on both sides, its net on the line of the
  revenue and its tax on the line of the tax;
- `InLedgerOnce`: one document at most stands for an invoice, and the one that the invoice names is its sale;
- `AdoptsSale`: the document that the bridge finds under the key of an invoice has the lines of its sale;
- `invoice_inLedgerOnce`: every invoice is, in every run whose adoptions are such;
- `invoice_inLedgerOnce_counterexample`: a draft of somebody else is linked to an invoice. -/

namespace AtlasErp

open Lib

/-! ## The sale of an invoice -/

/-- The sides of the lines of a document. -/
def AccountingDocument.sides (d : AccountingDocument) : List (Int × Int) :=
  d.journal.lines.map fun line => (line.debit, line.credit)

/-- The sides of a sale: the receivable, the revenue, and the tax if there is some. -/
def MerchantInvoice.saleSides (invoice : MerchantInvoice) : List (Int × Int) :=
  (invoice.totalAmount, 0) :: (0, invoice.subtotalAmount) ::
    if 0 < invoice.taxAmount then [(0, invoice.taxAmount)] else []

/-- The key of an invoice. -/
def AccountingDocument.OfInvoice (d : AccountingDocument) (invoiceId : Nat) : Prop :=
  d.sourceSystem = MERCHANT_INVOICE_SOURCE.sourceSystem ∧ d.sourceType = MERCHANT_INVOICE_SOURCE.sourceType ∧
    d.sourceId = decimalText invoiceId

/-- The entry of the sale of an invoice. -/
structure SaleEntry (invoice : MerchantInvoice) (d : AccountingDocument) : Prop where
  source : d.OfInvoice invoice.id
  debit : (d.journal.lines.map (·.debit)).sum = invoice.totalAmount
  credit : (d.journal.lines.map (·.credit)).sum = invoice.totalAmount
  sides : d.sides = invoice.saleSides

/-- The invoice has one document at most, and what it names is its sale. -/
structure InLedgerOnce (db : BridgeDb) (i : BridgedInvoice) : Prop where
  once : ∀ d ∈ db.ledger.documents, ∀ d' ∈ db.ledger.documents, d.OfInvoice i.invoice.id →
    d'.OfInvoice i.invoice.id → d.status ≠ .void → d'.status ≠ .void → d = d'
  booked : ∀ documentId ∈ i.accountingDocumentId,
    ∃ d ∈ db.ledger.documents, d.id = documentId ∧ SaleEntry i.invoice d

/-- The condition: a document that is adopted has the lines of the sale. -/
def AdoptsSale (p : BridgePoint) (_ : BridgeDb) : Prop :=
  match p with
  | .adopting _ invoice orphan => orphan.sides = invoice.saleSides
  | _ => True

instance (p : BridgePoint) (db : BridgeDb) : Decidable (AdoptsSale p db) := by
  unfold AdoptsSale
  split <;> infer_instance

/-- The header of an invoice that agrees with itself. -/
structure Consistent (invoice : MerchantInvoice) : Prop where
  total : invoice.subtotalAmount + invoice.taxAmount = invoice.totalAmount
  tax : 0 ≤ invoice.taxAmount

/-- The same invoice, whatever its status is. -/
structure SameSale (old new : MerchantInvoice) : Prop where
  id : new.id = old.id
  subtotal : new.subtotalAmount = old.subtotalAmount
  tax : new.taxAmount = old.taxAmount
  total : new.totalAmount = old.totalAmount

section Sale

variable {invoice invoice' : MerchantInvoice} {d d' : AccountingDocument}

/-- **The lines of a sale add up** to the total of its invoice. -/
theorem saleEntry_of_sides (hsource : d.OfInvoice invoice.id) (hsides : d.sides = invoice.saleSides)
    (h : Consistent invoice) : SaleEntry invoice d := by
  have hdebit : d.journal.lines.map (·.debit) = invoice.saleSides.map Prod.fst := by
    rw [← hsides, AccountingDocument.sides, List.map_map]
    rfl
  have hcredit : d.journal.lines.map (·.credit) = invoice.saleSides.map Prod.snd := by
    rw [← hsides, AccountingDocument.sides, List.map_map]
    rfl
  have htotal := h.total
  have htax := h.tax
  refine ⟨hsource, ?_, ?_, hsides⟩
  · rw [hdebit, MerchantInvoice.saleSides]
    split <;> simp
  · rw [hcredit, MerchantInvoice.saleSides]
    split <;> simp <;> omega

theorem SaleEntry.entry (h : SaleEntry invoice d) (hsame : SameEntry d d') : SaleEntry invoice d' where
  source := by
    obtain ⟨hsystem, htype, hid⟩ := hsame.source
    obtain ⟨hsystem', htype', hid'⟩ := h.source
    exact ⟨hsystem.trans hsystem', htype.trans htype', hid.trans hid'⟩
  debit := by rw [hsame.lines, h.debit]
  credit := by rw [hsame.lines, h.credit]
  sides := by rw [AccountingDocument.sides, hsame.lines, ← AccountingDocument.sides, h.sides]

theorem SaleEntry.same (h : SaleEntry invoice d) (hsame : SameSale invoice invoice') : SaleEntry invoice' d where
  source := by rw [hsame.id]; exact h.source
  debit := by rw [hsame.total, h.debit]
  credit := by rw [hsame.total, h.credit]
  sides := by
    rw [h.sides, MerchantInvoice.saleSides, MerchantInvoice.saleSides, hsame.total, hsame.subtotal, hsame.tax]

theorem SameEntry.trans {d'' : AccountingDocument} (h : SameEntry d d') (h' : SameEntry d' d'') : SameEntry d d'' where
  id := h'.id.trans h.id
  createdBy := h'.createdBy.trans h.createdBy
  source := ⟨h'.source.1.trans h.source.1, h'.source.2.1.trans h.source.2.1, h'.source.2.2.trans h.source.2.2⟩
  lines := h'.lines.trans h.lines

end Sale

/-! ## What is drafted -/

/-- What was checked of the invoice. -/
structure ContextOf (invoice : MerchantInvoice) (input : PostMerchantInvoiceToGlDto) (context : SaleContext) : Prop where
  subtotal : context.subtotal = invoice.subtotalAmount
  tax : context.tax = invoice.taxAmount
  total : context.total = invoice.totalAmount
  consistent : Consistent invoice
  account : 0 < context.tax → input.taxAccountId.isSome

section Drafts

variable {invoice : MerchantInvoice} {input : PostMerchantInvoiceToGlDto} {context : SaleContext}

theorem revalidateInvoice_eq_ok {facts : InvoiceFacts} (h : revalidateInvoice facts invoice input = .ok context) :
    ContextOf invoice input context := by
  obtain ⟨-, h⟩ := failIf_bind_eq_ok.mp h
  obtain ⟨partnerId, -, h⟩ := orFail_bind_eq_ok.mp h
  obtain ⟨-, h⟩ := failIf_bind_eq_ok.mp h
  obtain ⟨-, h⟩ := failIf_bind_eq_ok.mp h
  obtain ⟨currency, -, h⟩ := bind_eq_ok.mp h
  obtain ⟨-, h⟩ := failIf_bind_eq_ok.mp h
  obtain ⟨-, -, h⟩ := bind_eq_ok.mp h
  obtain ⟨subtotal, hsubtotal, h⟩ := bind_eq_ok.mp h
  obtain ⟨tax, htax, h⟩ := bind_eq_ok.mp h
  obtain ⟨total, htotal, h⟩ := bind_eq_ok.mp h
  obtain ⟨taxes, -, h⟩ := bind_eq_ok.mp h
  obtain ⟨totals, -, h⟩ := bind_eq_ok.mp h
  obtain ⟨hagree, h⟩ := failIf_bind_eq_ok.mp h
  obtain ⟨haccount, h⟩ := failIf_bind_eq_ok.mp h
  obtain rfl := pure_eq_ok.mp h
  obtain ⟨rfl, -⟩ := parseMoney_eq_ok (liftMoney_eq_ok.mp hsubtotal)
  obtain ⟨rfl, -, hnegative, -⟩ := parseMoney_eq_ok (liftMoney_eq_ok.mp htax)
  obtain ⟨rfl, -⟩ := parseMoney_eq_ok (liftMoney_eq_ok.mp htotal)
  refine ⟨rfl, rfl, rfl, ⟨not_not.mp fun hne => hagree (.inl hne), hnegative rfl⟩, fun hpos => ?_⟩
  exact Option.isSome_iff_ne_none.mpr fun hnone => haccount ⟨hpos, hnone⟩

/-- A line of the sale is recorded with its sides. -/
theorem recorded_sides {index : Nat} {line : DraftJournalLineInput} {row : JournalLine} {debit credit : Int}
    (h : recordLine index line = .ok row) (hdebit : line.debit.minorUnits = .ok debit)
    (hcredit : line.credit.minorUnits = .ok credit) : (row.debit, row.credit) = (debit, credit) := by
  obtain ⟨hdebit', hcredit', -⟩ := recordLine_eq_ok h
  exact Prod.ext (Except.ok.inj (hdebit'.symm.trans hdebit)) (Except.ok.inj (hcredit'.symm.trans hcredit))

theorem minorUnits_zero : zeroAmount.minorUnits = .ok 0 := by decide

/-- **The draft of a sale** is recorded with the sides of the sale. -/
theorem sides_of_recorded (h : ContextOf invoice input context) {rows : List JournalLine}
    (hrows : List.Forall₂ (fun (line : DraftJournalLineInput) stored => ∃ index, recordLine index line = .ok stored)
      (buildDraft invoice input context).lines rows) :
    rows.map (fun line => (line.debit, line.credit)) = invoice.saleSides := by
  obtain ⟨receivable, rest, ⟨_, hreceivable⟩, hrest, rfl⟩ := List.forall₂_cons_left_iff.mp hrows
  obtain ⟨revenue, taxes, ⟨_, hrevenue⟩, htaxes, rfl⟩ := List.forall₂_cons_left_iff.mp hrest
  have hfirst := recorded_sides hreceivable (minorUnits_column _) minorUnits_zero
  have hsecond := recorded_sides hrevenue minorUnits_zero (minorUnits_column _)
  rw [List.map_cons, List.map_cons, hfirst, hsecond, MerchantInvoice.saleSides, h.total, h.subtotal]
  congr 2
  rw [← h.tax]
  split at htaxes
  · rename_i hpos
    obtain ⟨account, haccount⟩ := Option.isSome_iff_exists.mp (h.account hpos)
    rw [haccount] at htaxes
    obtain ⟨tax, none, ⟨_, htax⟩, hnone, rfl⟩ := List.forall₂_cons_left_iff.mp htaxes
    obtain rfl := List.forall₂_nil_left_iff.mp hnone
    rw [if_pos hpos, List.map_cons, recorded_sides htax minorUnits_zero (minorUnits_column _)]
    rfl
  · obtain rfl := List.forall₂_nil_left_iff.mp htaxes
    rw [if_neg ‹_›]
    rfl

/-- What the transaction has drafted so far. -/
def DraftsSale (invoice : MerchantInvoice) (d : Drafting) : Prop :=
  d.purpose = .keep ∧ ∃ input context, ContextOf invoice input context ∧ d.input = buildDraft invoice input context

def LedgerPoint.Drafts (invoice : MerchantInvoice) : LedgerPoint → Prop
  | .numbering d | .resolving d _ => DraftsSale invoice d
  | .validating d | .inserting d => DraftsSale invoice d.drafting ∧ d.document.input = d.drafting.input ∧
      d.document.sourceId = decimalText invoice.id
  | .keeping row => row.OfInvoice invoice.id ∧ row.sides = invoice.saleSides
  | _ => False

/-- A draft of the sale goes on as one. -/
theorem LedgerAdvance.drafts {db : AccountingDb} {answer : LedgerAnswer} {p p' : LedgerPoint} (hp : p.Drafts invoice)
    (h : LedgerAdvance db answer p p') : p'.Drafts invoice := by
  cases h with
  | numbered | validated => exact hp
  | @resolved d documentNo resolved hresolve =>
    unfold resolveDraft at hresolve
    split at hresolve
    · cases hresolve
    · rename_i hdefaults
      split at hresolve
      · cases hresolve
      · obtain rfl := Except.ok.inj hresolve
        obtain ⟨_, _, hdocument⟩ := bind_eq_ok.mp hdefaults
        obtain ⟨_, _, hdocument⟩ := bind_eq_ok.mp hdocument
        obtain rfl := pure_eq_ok.mp hdocument
        refine ⟨hp, rfl, ?_⟩
        obtain ⟨-, input, context, -, hinput⟩ := hp
        show d.input.sourceId.getD _ = _
        rw [hinput]
        rfl
  | @inserted d p' hinsert =>
    obtain ⟨⟨hkeep, input, context, hcontext, hinput⟩, hsame, hsource⟩ := hp
    obtain ⟨row, hrow, hinsert⟩ := bind_eq_ok.mp hinsert
    obtain ⟨-, -, hinsert⟩ := bind_eq_ok.mp hinsert
    obtain ⟨-, hinsert⟩ := failIf_bind_eq_ok.mp hinsert
    rw [hkeep] at hinsert
    obtain rfl := pure_eq_ok.mp hinsert
    obtain ⟨-, -, -, hlines⟩ := recordDraft_eq_ok hrow
    rw [hinput] at hlines hsame
    refine ⟨?_, sides_of_recorded hcontext hlines⟩
    obtain ⟨lines, -, hrow⟩ := bind_eq_ok.mp hrow
    obtain rfl := pure_eq_ok.mp hrow
    exact ⟨congrArg AccountingDraftInput.sourceSystem hsame, congrArg AccountingDraftInput.sourceType hsame, hsource⟩
  | _ => exact hp.elim

end Drafts

/-! ## Steps -/

/-- The invoice is there as it was read, and names no document. -/
def Unlinked (db : BridgeDb) (call : BridgeCall) (invoice : MerchantInvoice) : Prop :=
  invoice.id = call.invoiceId ∧ ∃ i ∈ db.invoices, i.accountingDocumentId = none ∧ SameSale invoice i.invoice

/-- What a transaction relies on. -/
def BridgePoint.Relies (db : BridgeDb) : BridgePoint → Prop
  | .ledger p => p.Relies db.ledger.documents
  | .locked _ => True
  | .revalidating call invoice => Unlinked db call invoice
  | .searching call invoice context => Unlinked db call invoice ∧ ContextOf invoice call.input context
  | .adopting call invoice orphan => Unlinked db call invoice ∧ Consistent invoice ∧ orphan.OfInvoice invoice.id ∧
      ∃ d ∈ db.ledger.documents, SameEntry orphan d
  | .drafting call invoice p => Unlinked db call invoice ∧ Consistent invoice ∧ p.Relies db.ledger.documents ∧
      p.Drafts invoice

/-- A step that goes on. -/
inductive BridgeAdvance (db : BridgeDb) (answer : LedgerAnswer) : BridgePoint → BridgePoint → Prop where
  | ledger {p p'} (advance : LedgerAdvance db.ledger answer p p') : BridgeAdvance db answer (.ledger p) (.ledger p')
  | read {call row} (found : db.invoices.find? call.invoiceId = some row) (unlinked : row.accountingDocumentId = none) :
      BridgeAdvance db answer (.locked call) (.revalidating call row.invoice)
  | revalidated {call invoice context} (valid : revalidateInvoice db.facts invoice call.input = .ok context) :
      BridgeAdvance db answer (.revalidating call invoice) (.searching call invoice context)
  | found {call invoice context orphan}
      (active : findActiveDocumentBySource db.ledger.documents (decimalText invoice.id) = some orphan) :
      BridgeAdvance db answer (.searching call invoice context) (.adopting call invoice orphan)
  | drafting {call invoice context d}
      (begin : beginDraft (buildDraft invoice call.input context) call.user .serverGenerated call.policy .keep = .ok d) :
      BridgeAdvance db answer (.searching call invoice context) (.drafting call invoice (.numbering d))
  | drafted {call invoice p p'} (advance : LedgerAdvance db.ledger answer p p') :
      BridgeAdvance db answer (.drafting call invoice p) (.drafting call invoice p')

/-- A commit. -/
inductive BridgeCommit (db : BridgeDb) (answer : LedgerAnswer) : BridgePoint → BridgeDb → Prop where
  | ledger {p ledger} (commit : LedgerCommit db.ledger answer p ledger) :
      BridgeCommit db answer (.ledger p) { db with ledger }
  | adopted {call invoice orphan} :
      BridgeCommit db answer (.adopting call invoice orphan) (db.link invoice.id orphan.id)
  | sold {call invoice row ledger} (new : commitNew db.ledger row = .ok ledger) :
      BridgeCommit db answer (.drafting call invoice (.keeping row))
        (BridgeDb.link { db with ledger } invoice.id db.ledger.documents.nextKey)

section Steps

variable {db db' : BridgeDb} {answer : LedgerAnswer} {p : BridgePoint} {q : Option BridgePoint}

theorem readOn_eq {read : Except HttpError (Option BridgePoint)} (h : readOn db read = (db', q)) :
    db' = db ∧ ∀ p' ∈ q, read = .ok (some p') := by
  obtain ⟨rfl, rfl⟩ := Prod.mk.inj h
  exact ⟨rfl, fun p' hp' => toOption_eq_some.mp (Option.join_eq_some_iff.mp hp')⟩

theorem writeOut_eq {write : Except HttpError BridgeDb} (h : writeOut db write = (db', q)) :
    q = none ∧ (db' = db ∨ write = .ok db') := by
  cases write with
  | ok store =>
    obtain ⟨rfl, rfl⟩ := Prod.mk.inj h
    exact ⟨rfl, .inr rfl⟩
  | error e =>
    obtain ⟨rfl, rfl⟩ := Prod.mk.inj h
    exact ⟨rfl, .inl rfl⟩

/-- A step of the ledger reads, or commits. -/
theorem ledgerStep_eq {r : LedgerPoint} {wrap : LedgerPoint → BridgePoint}
    (h : ledgerStep db answer r wrap = (db', q)) :
    db' = db ∧ (∀ p' ∈ q, ∃ r', p' = wrap r' ∧ LedgerAdvance db.ledger answer r r') ∨
      q = none ∧ ∃ ledger, LedgerCommit db.ledger answer r ledger ∧ db' = { db with ledger } := by
  unfold ledgerStep at h
  rcases hnext : r.next db.ledger answer with ⟨ledger, next⟩
  rw [hnext] at h
  obtain ⟨rfl, rfl⟩ := Prod.mk.inj h
  rcases ledger_next hnext with rfl | ⟨rfl, hcommit⟩
  · refine .inl ⟨rfl, fun p' hp' => ?_⟩
    obtain ⟨r', rfl, rfl⟩ := Option.map_eq_some_iff.mp hp'
    exact ⟨r', rfl, ledger_advance hnext⟩
  · exact .inr ⟨rfl, ledger, hcommit, rfl⟩

theorem linkInvoice_eq_ok {invoiceId documentId : Nat} (h : linkInvoice db invoiceId documentId = .ok db') :
    db' = db.link invoiceId documentId := (pure_eq_ok.mp (failIf_bind_eq_ok.mp h).2).symm

/-- **All that a step does.** -/
theorem bridge_step (h : p.step db answer = (db', q)) (hp : p.Relies db) :
    db' = db ∧ (∀ p' ∈ q, BridgeAdvance db answer p p') ∨ q = none ∧ (db' = db ∨ BridgeCommit db answer p db') := by
  cases p with
  | ledger r =>
    rcases ledgerStep_eq h with ⟨rfl, hadvance⟩ | ⟨rfl, ledger, hcommit, rfl⟩
    · refine .inl ⟨rfl, fun p' hp' => ?_⟩
      obtain ⟨r', rfl, hadvance⟩ := hadvance p' hp'
      exact .ledger hadvance
    · exact .inr ⟨rfl, .inr (.ledger hcommit)⟩
  | locked call =>
    obtain ⟨rfl, hread⟩ := readOn_eq h
    refine .inl ⟨rfl, fun p' hp' => ?_⟩
    obtain ⟨row, hfind, hread⟩ := orFail_bind_eq_ok.mp (hread p' hp')
    cases hnames : row.accountingDocumentId with
    | some documentId =>
      rw [hnames] at hread
      obtain ⟨-, -, hread⟩ := bind_eq_ok.mp hread
      cases pure_eq_ok.mp hread
    | none =>
      rw [hnames] at hread
      obtain rfl := Option.some.inj (pure_eq_ok.mp hread)
      exact .read hfind hnames
  | revalidating call invoice =>
    obtain ⟨rfl, hread⟩ := readOn_eq h
    refine .inl ⟨rfl, fun p' hp' => ?_⟩
    obtain ⟨context, hvalid, hnext⟩ := map_eq_ok.mp (hread p' hp')
    obtain rfl := Option.some.inj hnext
    exact .revalidated hvalid
  | searching call invoice context =>
    obtain ⟨rfl, hread⟩ := readOn_eq h
    refine .inl ⟨rfl, fun p' hp' => ?_⟩
    obtain ⟨next, hsearch, hnext⟩ := map_eq_ok.mp (hread p' hp')
    obtain rfl := Option.some.inj hnext
    unfold searchOrphan at hsearch
    split at hsearch
    · rename_i orphan hactive
      obtain ⟨-, -, hsearch⟩ := bind_eq_ok.mp hsearch
      obtain ⟨-, -, hsearch⟩ := bind_eq_ok.mp hsearch
      obtain rfl := pure_eq_ok.mp hsearch
      exact .found hactive
    · obtain ⟨d, hbegin, hsearch⟩ := bind_eq_ok.mp hsearch
      obtain rfl := pure_eq_ok.mp hsearch
      exact .drafting hbegin
  | adopting call invoice orphan =>
    obtain ⟨rfl, rfl | hwrite⟩ := writeOut_eq h
    · exact .inr ⟨rfl, .inl rfl⟩
    · obtain ⟨linked, hlink, hwrite⟩ := bind_eq_ok.mp hwrite
      obtain ⟨-, -, hwrite⟩ := bind_eq_ok.mp hwrite
      obtain rfl := pure_eq_ok.mp hwrite
      obtain rfl := linkInvoice_eq_ok hlink
      exact .inr ⟨rfl, .inr .adopted⟩
  | drafting call invoice r =>
    -- what is drafted is written at its last point only
    have hgoes : ledgerStep db answer r (.drafting call invoice) = (db', q) →
        (∀ ledger, ¬ LedgerCommit db.ledger answer r ledger) →
        db' = db ∧ ∀ p' ∈ q, BridgeAdvance db answer (.drafting call invoice r) p' := by
      intro h hnone
      rcases ledgerStep_eq h with ⟨rfl, hadvance⟩ | ⟨-, ledger, hcommit, -⟩
      · refine ⟨rfl, fun p' hp' => ?_⟩
        obtain ⟨r', rfl, hadvance⟩ := hadvance p' hp'
        exact .drafted hadvance
      · exact absurd hcommit (hnone ledger)
    cases r with
    | keeping row =>
      obtain ⟨rfl, rfl | hwrite⟩ := writeOut_eq h
      · exact .inr ⟨rfl, .inl rfl⟩
      · obtain ⟨ledger, hnew, hwrite⟩ := bind_eq_ok.mp hwrite
        obtain ⟨linked, hlink, hwrite⟩ := bind_eq_ok.mp hwrite
        obtain ⟨-, -, hwrite⟩ := bind_eq_ok.mp hwrite
        obtain rfl := pure_eq_ok.mp hwrite
        obtain rfl := linkInvoice_eq_ok hlink
        exact .inr ⟨rfl, .inr (.sold hnew)⟩
    | numbering | resolving | validating | inserting => exact .inl (hgoes h fun _ => nofun)
    | _ => exact hp.2.2.2.elim

end Steps

/-! ## The invariant -/

/-- The documents keep their own invariant and the index of the origins, and what an invoice names is its sale. -/
structure BridgeInv (db : BridgeDb) : Prop where
  documents : DocumentsInv db.ledger.documents
  origins : db.ledger.documents.Indexed merchantInvoiceOrigins
  booked : ∀ i ∈ db.invoices, ∀ documentId ∈ i.accountingDocumentId,
    ∃ d ∈ db.ledger.documents, d.id = documentId ∧ SaleEntry i.invoice d

theorem SameSale.refl (invoice : MerchantInvoice) : SameSale invoice invoice := ⟨rfl, rfl, rfl, rfl⟩

section Documents

variable {db db' : AccountingDb} {answer : LedgerAnswer} {p : LedgerPoint} {row : AccountingDocument}

/-- A document that is void, or not of an invoice, has no entry in the index. -/
theorem mem_origins {d : AccountingDocument} {invoiceId : Nat} (h : d.OfInvoice invoiceId) (hvoid : d.status ≠ .void) :
    decimalText invoiceId ∈ merchantInvoiceOrigins d := by
  obtain ⟨hsystem, htype, hid⟩ := h
  rw [merchantInvoiceOrigins, if_pos ⟨hsystem, htype, hvoid⟩, hid]
  exact List.mem_cons_self

theorem free_of_unique {t : Table AccountingDocument} (h : violatesUnique t row = false) :
    t.conflicts merchantInvoiceOrigins none (merchantInvoiceOrigins row) = false := by
  simp only [violatesUnique, Bool.or_eq_false_iff] at h
  exact h.2

/-- A new row keeps the index. -/
theorem commitNew_origins (h : commitNew db row = .ok db') (hinv : db.documents.Indexed merchantInvoiceOrigins) :
    db'.documents.Indexed merchantInvoiceOrigins := by
  obtain ⟨-, hunique, rfl⟩ := commitNew_eq_ok h
  exact hinv.create (fun _ => rfl) (free_of_unique hunique)

/-- A row that is not void, written under the same key, keeps the index. -/
theorem origins_put {t : Table AccountingDocument} (hinv : t.Indexed merchantInvoiceOrigins)
    {old new : AccountingDocument} (hold : old ∈ t) (hid : new.id = old.id) (hvoid : old.status ≠ .void)
    (hsource : new.sourceSystem = old.sourceSystem ∧ new.sourceType = old.sourceType ∧ new.sourceId = old.sourceId) :
    (t.put new).Indexed merchantInvoiceOrigins := by
  refine hinv.put hold hid fun s hs => ?_
  unfold merchantInvoiceOrigins at hs ⊢
  split at hs
  · rename_i hnew
    rw [if_pos ⟨hsource.1 ▸ hnew.1, hsource.2.1 ▸ hnew.2.1, hvoid⟩, ← hsource.2.2]
    exact hs
  · cases hs

/-- **No commit gives an invoice a second document.** -/
theorem LedgerCommit.origins (h : LedgerCommit db answer p db') (hp : p.Relies db.documents)
    (hinv : db.documents.Indexed merchantInvoiceOrigins) : db'.documents.Indexed merchantInvoiceOrigins := by
  have hpending : ∀ d : AccountingDocument, d.isPendingDraft = true → d.status ≠ .void := fun d hd hvoid => by
    cases hvoid.symm.trans (of_decide_eq_true hd).1
  cases h with
  | kept hnew => exact commitNew_origins hnew hinv
  | @published publication row _ hcommit =>
    obtain ⟨hrelies, -, user, now, hash, rfl⟩ := hp
    cases publication with
    | ofDraft row =>
      obtain rfl := Except.ok.inj hcommit
      exact origins_put hinv hrelies.1 rfl (by rw [hrelies.2.1]; exact nofun) ⟨rfl, rfl, rfl⟩
    | ofNew row => exact commitNew_origins hcommit hinv
    | ofReversal original row =>
      obtain ⟨-, -, -, hfound, hposted, -⟩ := hrelies
      obtain ⟨store, hnew, hcommit⟩ := bind_eq_ok.mp hcommit
      obtain ⟨-, -, hcommit⟩ := bind_eq_ok.mp hcommit
      obtain ⟨-, -, hcommit⟩ := bind_eq_ok.mp hcommit
      obtain rfl := pure_eq_ok.mp hcommit
      have hstored : original ∈ store.documents := by
        obtain ⟨-, -, rfl⟩ := commitNew_eq_ok hnew
        exact Table.mem_create_of_mem (fun _ => rfl) hfound
      exact origins_put (commitNew_origins hnew hinv) hstored rfl (by rw [hposted]; exact nofun) ⟨rfl, rfl, rfl⟩
  | @decided id user decision _ hcommit =>
    obtain ⟨document, hmem, -, hdraft, rfl⟩ := commitDecision_eq_ok hcommit
    refine origins_put hinv hmem ?_ (hpending document hdraft) ?_ <;> cases decision
    · rfl
    · rfl
    · exact ⟨rfl, rfl, rfl⟩
    · exact ⟨rfl, rfl, rfl⟩
  | voided hcommit =>
    obtain ⟨document, hmem, -, hdraft, rfl⟩ := commitVoid_eq_ok hcommit
    exact origins_put hinv hmem rfl (by rw [hdraft]; exact nofun) ⟨rfl, rfl, rfl⟩
  | closed | reopened => exact hinv

/-- No commit changes an entry. -/
theorem LedgerCommit.entry (h : LedgerCommit db answer p db') (hp : p.Relies db.documents) {d : AccountingDocument}
    (hd : d ∈ db.documents) : ∃ d' ∈ db'.documents, SameEntry d d' := by
  rcases ledgerWrites h hp with heq | hwrite
  · exact ⟨d, heq ▸ hd, .refl d⟩
  · exact hwrite.entry hd

end Documents

/-- The documents of a store follow those of another: nothing is taken away, no entry changes. -/
def Follows (db db' : BridgeDb) : Prop := ∀ d ∈ db.ledger.documents, ∃ d' ∈ db'.ledger.documents, SameEntry d d'

section Invariant

variable {db db' : BridgeDb} {answer : LedgerAnswer} {p p' : BridgePoint}

theorem Follows.booked (h : Follows db db') {invoice : MerchantInvoice} {documentId : Nat}
    (hbooked : ∃ d ∈ db.ledger.documents, d.id = documentId ∧ SaleEntry invoice d) :
    ∃ d ∈ db'.ledger.documents, d.id = documentId ∧ SaleEntry invoice d := by
  obtain ⟨d, hd, rfl, hsale⟩ := hbooked
  obtain ⟨d', hd', hsame⟩ := h d hd
  exact ⟨d', hd', hsame.id, hsale.entry hsame⟩

theorem mem_link {invoiceId documentId : Nat} {i : BridgedInvoice} :
    i ∈ (db.link invoiceId documentId).invoices ↔
      ∃ old ∈ db.invoices, (if old.invoice.id = invoiceId then old.naming documentId else old) = i := by
  simpa [BridgeDb.link] using Table.mem_updateWhere (t := db.invoices) (p := (·.invoice.id = invoiceId))
    (f := BridgedInvoice.naming documentId) fun _ => rfl

/-- An invoice that gets the document of its sale keeps the invariant. -/
theorem BridgeInv.link (h : BridgeInv db) {call : BridgeCall} {invoice : MerchantInvoice}
    (hunlinked : Unlinked db call invoice) {d : AccountingDocument} (hd : d ∈ db.ledger.documents)
    (hsale : SaleEntry invoice d) : BridgeInv (db.link invoice.id d.id) := by
  refine ⟨h.documents, h.origins, fun i hi documentId hnames => ?_⟩
  obtain ⟨old, hold, rfl⟩ := mem_link.mp hi
  split at hnames
  · rename_i hid
    obtain rfl : d.id = documentId := Option.some.inj hnames
    obtain ⟨-, i, hi, -, hsame⟩ := hunlinked
    obtain rfl : old = i := Table.eq_of_key_eq hold hi (hid.trans hsame.id.symm)
    rw [if_pos hid]
    exact ⟨d, hd, rfl, hsale.same hsame⟩
  · rw [if_neg ‹_›]
    exact h.booked old hold documentId hnames

/-- A commit of the ledger keeps the invariant. -/
theorem BridgeInv.ledger (h : BridgeInv db) {r : LedgerPoint} {ledger : AccountingDb}
    (hcommit : LedgerCommit db.ledger answer r ledger) (hr : r.Relies db.ledger.documents) :
    BridgeInv { db with ledger } := by
  have hfollows : Follows db { db with ledger } := fun d hd => hcommit.entry hr hd
  refine ⟨?_, hcommit.origins hr h.origins, fun i hi documentId hnames =>
    hfollows.booked (h.booked i hi documentId hnames)⟩
  rcases ledgerWrites hcommit hr with heq | hwrite
  · rw [heq]
    exact h.documents
  · exact hwrite.inv h.documents

/-- **A commit keeps the invariant**, when what it adopts has the lines of the sale. -/
theorem BridgeCommit.inv (h : BridgeCommit db answer p db') (hinv : BridgeInv db) (hp : p.Relies db)
    (hok : AdoptsSale p db) : BridgeInv db' := by
  cases h with
  | ledger hcommit => exact hinv.ledger hcommit hp
  | @adopted call invoice orphan =>
    obtain ⟨hunlinked, hconsistent, hsource, d, hd, hsame⟩ := hp
    rw [← hsame.id]
    exact hinv.link hunlinked hd ((saleEntry_of_sides hsource hok hconsistent).entry hsame)
  | @sold call invoice row ledger hnew =>
    obtain ⟨hunlinked, hconsistent, hrelies, hsource, hsides⟩ := hp
    have hcommit : LedgerCommit db.ledger answer (.keeping row) ledger := .kept hnew
    have hkept : BridgeInv { db with ledger } := hinv.ledger hcommit hrelies
    have hstored : row.stored db.ledger.documents.nextKey ∈ ledger.documents := by
      obtain ⟨-, -, rfl⟩ := commitNew_eq_ok hnew
      exact (Table.mem_create fun _ => rfl).mpr (.inr rfl)
    have hsale : SaleEntry invoice (row.stored db.ledger.documents.nextKey) :=
      saleEntry_of_sides hsource hsides hconsistent
    exact hkept.link hunlinked hstored hsale

/-! ## What the transactions promise -/

/-- What a transaction relies on when it goes on. -/
theorem BridgeAdvance.relies (hinv : BridgeInv db) (hp : p.Relies db) (h : BridgeAdvance db answer p p') :
    p'.Relies db := by
  cases h with
  | ledger hadvance => exact hadvance.relies hinv.documents hp
  | read hfound hunlinked =>
    obtain ⟨hmem, hid⟩ := Table.find?_eq_some.mp hfound
    exact ⟨hid, _, hmem, hunlinked, .refl _⟩
  | revalidated hvalid => exact ⟨hp, revalidateInvoice_eq_ok hvalid⟩
  | found hactive =>
    obtain ⟨hmem, hrow⟩ := Table.mem_rowsWhere.mp (List.mem_of_mem_head? hactive)
    obtain ⟨hsystem, htype, hid, -⟩ := of_decide_eq_true hrow
    exact ⟨hp.1, hp.2.consistent, ⟨hsystem, htype, hid⟩, _, hmem, .refl _⟩
  | @drafting call invoice context d hbegin =>
    obtain ⟨hinput, -, hpurpose⟩ := beginDraft_eq_ok hbegin
    refine ⟨hp.1, hp.2.consistent, ?_, hpurpose, call.input, context, hp.2, hinput⟩
    simp only [LedgerPoint.Relies, Drafting.Relies, hpurpose]
  | drafted hadvance =>
    obtain ⟨hunlinked, hconsistent, hrelies, hdrafts⟩ := hp
    exact ⟨hunlinked, hconsistent, hadvance.relies hinv.documents hrelies, hadvance.drafts hdrafts⟩

theorem BridgeCommit.follows (h : BridgeCommit db answer p db') (hp : p.Relies db) : Follows db db' := by
  cases h with
  | ledger hcommit => exact fun d hd => hcommit.entry hp hd
  | adopted => exact fun d hd => ⟨d, hd, .refl d⟩
  | @sold call invoice row ledger hnew =>
    have hcommit : LedgerCommit db.ledger answer (.keeping row) ledger := .kept hnew
    exact fun d hd => hcommit.entry hp.2.2.1 hd

/-- An invoice that another transaction has locked stays as it is. -/
theorem BridgeCommit.unlinked (h : BridgeCommit db answer p db') (hp : p.Relies db) {call : BridgeCall}
    {invoice : MerchantInvoice} (hlock : .invoice call.invoiceId ∉ p.locks) (hunlinked : Unlinked db call invoice) :
    Unlinked db' call invoice := by
  obtain ⟨hid, i, hi, hnone, hsame⟩ := hunlinked
  have hother : ∀ {store : BridgeDb} {named documentId : Nat}, store.invoices = db.invoices →
      named ≠ call.invoiceId → Unlinked (store.link named documentId) call invoice := by
    intro store named documentId hinvoices hne
    refine ⟨hid, i, mem_link.mpr ⟨i, hinvoices ▸ hi, if_neg fun heq => hne ?_⟩, hnone, hsame⟩
    exact heq.symm.trans (hsame.id.trans hid)
  cases h with
  | ledger => exact ⟨hid, i, hi, hnone, hsame⟩
  | @adopted other named =>
    exact hother rfl fun heq => hlock (by rw [← heq, hp.1.1]; exact List.mem_cons_self)
  | @sold other named row ledger hnew =>
    exact hother rfl fun heq => hlock (by rw [← heq, hp.1.1]; exact List.mem_cons_self)

/-- What a transaction relies on stays, when another commits that holds none of its locks. -/
theorem BridgePoint.Relies.commit {q : BridgePoint} (hq : q.Relies db) (h : BridgeCommit db answer p db')
    (hp : p.Relies db) (hlocks : ∀ k ∈ q.locks, k ∉ p.locks) : q.Relies db' := by
  have hledger : ∀ r : LedgerPoint, (∀ k ∈ r.locks, .ledger k ∈ q.locks) → r.Relies db.ledger.documents →
      r.Relies db'.ledger.documents := by
    intro r hheld hr
    cases h with
    | ledger hcommit =>
      exact hr.commit hcommit hp fun k hk hk' => hlocks _ (hheld k hk) (List.mem_map_of_mem hk')
    | adopted => exact hr
    | @sold call invoice row ledger hnew =>
      have hcommit : LedgerCommit db.ledger answer (.keeping row) ledger := .kept hnew
      exact hr.commit hcommit hp.2.2.1 fun k _ => List.not_mem_nil
  cases q with
  | ledger r => exact hledger r (fun k hk => List.mem_map_of_mem hk) hq
  | locked => trivial
  | revalidating call invoice => exact h.unlinked hp (hlocks _ List.mem_cons_self) hq
  | searching call invoice context => exact ⟨h.unlinked hp (hlocks _ List.mem_cons_self) hq.1, hq.2⟩
  | adopting call invoice orphan =>
    obtain ⟨hunlinked, hconsistent, hsource, d, hd, hsame⟩ := hq
    obtain ⟨d', hd', hsame'⟩ := h.follows hp d hd
    exact ⟨h.unlinked hp (hlocks _ List.mem_cons_self) hunlinked, hconsistent, hsource, d', hd', hsame.trans hsame'⟩
  | drafting call invoice r =>
    obtain ⟨hunlinked, hconsistent, hrelies, hdrafts⟩ := hq
    refine ⟨h.unlinked hp (hlocks _ List.mem_cons_self) hunlinked, hconsistent, hledger r (fun k hk => ?_) hrelies, hdrafts⟩
    exact List.mem_cons_of_mem _ (List.mem_map_of_mem hk)

/-- What others do takes no invoice away, links none, and changes no amount. -/
theorem BridgeEvent.invoices (event : BridgeEvent) (db : BridgeDb) :
    (∀ i ∈ db.invoices, ∃ i' ∈ (event.apply db).invoices, i'.accountingDocumentId = i.accountingDocumentId ∧
      SameSale i.invoice i'.invoice) ∧
    ∀ i' ∈ (event.apply db).invoices, i'.accountingDocumentId = none ∨
      ∃ i ∈ db.invoices, i'.accountingDocumentId = i.accountingDocumentId ∧ SameSale i.invoice i'.invoice := by
  cases event with
  | ledger | inform => exact ⟨fun i hi => ⟨i, hi, rfl, .refl _⟩, fun i hi => .inr ⟨i, hi, rfl, .refl _⟩⟩
  | issue invoice =>
    refine ⟨fun i hi => ⟨i, Table.mem_create_of_mem (fun _ => rfl) hi, rfl, .refl _⟩, fun i hi => ?_⟩
    rcases (Table.mem_create fun _ => rfl).mp hi with hi | rfl
    · exact .inr ⟨i, hi, rfl, .refl _⟩
    · exact .inl rfl
  | setStatus invoiceId status =>
    have hrelates := Table.updateWhere_relates (t := db.invoices) (p := (·.invoice.id = invoiceId))
      (f := BridgedInvoice.withStatus status) (R := fun i i' => i'.accountingDocumentId = i.accountingDocumentId ∧
        SameSale i.invoice i'.invoice) (fun _ => rfl) (fun _ => ⟨rfl, .refl _⟩) fun _ _ _ => ⟨rfl, rfl, rfl, rfl, rfl⟩
    exact ⟨hrelates.1, fun i hi => .inr (hrelates.2 i hi)⟩

/-- **The transactions promise the invariant**, when what is adopted has the lines of the sale. -/
theorem bridge_promises : bridgeWorkers.Promises bridgeWorkers.Exclusive (Workers.GoesWhere AdoptsSale) BridgeInv
    (fun p db => p.Relies db) where
  start := by
    intro S task p _ _ hstart
    cases task with
    | ledger task =>
      obtain ⟨r, hr, rfl⟩ := Option.map_eq_some_iff.mp hstart
      exact LedgerTask.start_relies (toOption_eq_some.mp hr)
    | postInvoiceToGl call =>
      obtain ⟨-, -, rfl⟩ := Option.map_eq_some_iff.mp hstart
      trivial
  next := by
    intro S w answer p store q _ hS hfind hok hnext
    have hp : p.Relies S.committed := hS.at hfind
    rcases bridge_step (Option.some.inj hnext) hp with ⟨rfl, hadvance⟩ | ⟨rfl, rfl | hcommit⟩
    · exact ⟨hS.store, fun p' hp' => (hadvance p' hp').relies hS.store hp⟩
    · exact ⟨hS.store, fun p' hp' => absurd hp' (Option.not_mem_none p')⟩
    · exact ⟨hcommit.inv hS.store hp (hok p hfind), fun p' hp' => absurd hp' (Option.not_mem_none p')⟩
  stable := by
    intro S w answer p store q hex hS hfind _ hnext x hx
    have hp := hS.at hfind
    obtain ⟨hx, hne⟩ := Sessions.mem_others.mp hx
    rcases bridge_step (Option.some.inj hnext) hp with ⟨rfl, -⟩ | ⟨-, rfl | hcommit⟩
    · exact hS.worker x hx
    · exact hS.worker x hx
    · exact (hS.worker x hx).commit hcommit hp (hex x hx _ (S.mem_of_find? hfind) hne)
  outside := by
    intro S event store _ hS _ houtside
    obtain rfl := Option.some.inj houtside
    have hdocuments : (event.apply S.committed).ledger.documents = S.committed.ledger.documents := by
      cases event with
      | ledger event => cases event <;> rfl
      | _ => rfl
    obtain ⟨hkept, hfrom⟩ := event.invoices S.committed
    have hunlinked : ∀ {call invoice}, Unlinked S.committed call invoice →
        Unlinked (event.apply S.committed) call invoice := by
      rintro call invoice ⟨hid, i, hi, hnone, hsame⟩
      obtain ⟨i', hi', hnames, hsame'⟩ := hkept i hi
      exact ⟨hid, i', hi', hnames.trans hnone, hsame'.id.trans hsame.id, hsame'.subtotal.trans hsame.subtotal,
        hsame'.tax.trans hsame.tax, hsame'.total.trans hsame.total⟩
    refine ⟨⟨?_, ?_, fun i' hi' documentId hnames => ?_⟩, fun x hx => ?_⟩
    · show DocumentsInv (event.apply S.committed).ledger.documents
      rw [hdocuments]
      exact hS.store.documents
    · show (event.apply S.committed).ledger.documents.Indexed merchantInvoiceOrigins
      rw [hdocuments]
      exact hS.store.origins
    · show ∃ d ∈ (event.apply S.committed).ledger.documents, _
      rw [hdocuments]
      rcases hfrom i' hi' with hnone | ⟨i, hi, hsameNames, hsame⟩
      · rw [hnone] at hnames
        cases hnames
      · rw [hsameNames] at hnames
        obtain ⟨d, hd, hid, hsale⟩ := hS.store.booked i hi documentId hnames
        exact ⟨d, hd, hid, hsale.same hsame⟩
    · have hp := hS.worker x hx
      show x.2.Relies (event.apply S.committed)
      cases hpoint : x.2 <;> rw [hpoint] at hp <;> simp only [BridgePoint.Relies, hdocuments] at hp ⊢
      · exact hp
      · exact hunlinked hp
      · exact ⟨hunlinked hp.1, hp.2⟩
      · exact ⟨hunlinked hp.1, hp.2⟩
      · exact ⟨hunlinked hp.1, hp.2⟩

end Invariant

/-- **An invoice reaches the ledger once and for its own amounts**, in every run in which a document that the bridge
finds under the key of an invoice has the lines of its sale. -/
theorem invoice_inLedgerOnce {S : Sessions BridgeDb BridgePoint}
    (h : bridgeMachine.Reachable (Workers.GoesWhere AdoptsSale) S) {i : BridgedInvoice} (hi : i ∈ S.committed.invoices) :
    InLedgerOnce S.committed i := by
  have hinv : BridgeInv S.committed := by
    refine (Workers.keeps bridge_promises (fun db hinit => ?_) (fun _ hS => Workers.exclusive hS) h).store
    obtain ⟨hempty, hnone⟩ := hinit
    refine ⟨?_, ?_, fun i hi documentId hnames => ?_⟩
    · rw [hempty]
      exact ⟨fun d hd => absurd hd (Table.not_mem_empty d), fun r hr => absurd hr (Table.not_mem_empty r),
        fun d hd => absurd hd (Table.not_mem_empty d)⟩
    · rw [hempty]
      exact fun d hd => absurd hd (Table.not_mem_empty d)
    · rw [hnone i hi] at hnames
      cases hnames
  refine ⟨fun d hd d' hd' hof hof' hvoid hvoid' => ?_, hinv.booked i hi⟩
  exact hinv.origins d hd d' hd' _ (mem_origins hof hvoid) (mem_origins hof' hvoid')

/-! ## A draft of somebody else -/

/-- An invoice of 11.30, of which 1.30 are tax. -/
def oneInvoice : BridgeDb where
  ledger := { smallLedger with master := { smallLedger.master with businessPartners := [⟨3, true, none⟩] } }
  invoices := ⟨[⟨⟨1, 7, none, "F1", 20710, 20720, 1000, 130, 1130, .issued, none⟩, none⟩], by decide⟩
  facts := {
    invoiceLines := [⟨1, 1, "T", none, none, "D", "1.0000", 1000, 130, 1130⟩]
    receivables := [⟨1, 7, some 1, "T", none, none, 1130, 1130, "BOB", 20720, .pending⟩]
    accounts := [⟨7, some 3⟩]
    contracts := []
    legalEntities := [⟨1, "BOB"⟩] }

theorem oneInvoice_init : bridgeMachine.init ⟨oneInvoice, []⟩ := ⟨⟨rfl, by decide⟩, rfl⟩

/-- Its sale is asked for, and the transaction goes on. -/
def sold (w steps : Nat) : List (WorkerAct BridgeTask LedgerAnswer BridgeEvent) :=
  .start w (.postInvoiceToGl ⟨1, ⟨1, 1, 1, 1, 2, some 2, none, "BOB"⟩, admin 1, none⟩) ::
    List.replicate steps (.go w ⟨['S'], none, 0, ['h'], false⟩)

/-- Somebody drafts ten bolivianos under the key of the invoice. -/
def draftedByHand : List (WorkerAct BridgeTask LedgerAnswer BridgeEvent) :=
  .start 1 (.ledger (.createDraft { smallDraft 'A' none with
    sourceSystem := MERCHANT_INVOICE_SOURCE.sourceSystem
    sourceType := MERCHANT_INVOICE_SOURCE.sourceType
    sourceId := some ['1'] } (admin 2) (some "ALL_MANUAL_REQUIRE_APPROVAL"))) ::
    List.replicate 5 (.go 1 ⟨[], none, 0, [], false⟩)

/-- **The invoice names a document** with other amounts. -/
theorem invoice_inLedgerOnce_counterexample : ¬ ∀ S i, bridgeMachine.Reachable (fun _ _ => True) S →
    i ∈ S.committed.invoices → InLedgerOnce S.committed i := by
  intro h
  let S := bridgeMachine.after ⟨oneInvoice, []⟩ (draftedByHand ++ sold 2 4)
  have hrun : ∃ i ∈ S.committed.invoices, ∃ documentId ∈ i.accountingDocumentId,
      ∀ d ∈ S.committed.ledger.documents, (d.journal.lines.map (·.debit)).sum ≠ i.invoice.totalAmount := by
    decide
  obtain ⟨i, hi, documentId, hnames, hother⟩ := hrun
  obtain ⟨d, hd, -, hsale⟩ := (h S i (bridgeMachine.reachable_after oneInvoice_init _) hi).booked documentId hnames
  exact hother d hd hsale.debit

/-- The sale is drafted, posted and reversed; it is asked for again. -/
theorem invoice_inLedgerOnce_posting :
    let S := bridgeMachine.afterIf (Workers.GoesWhere AdoptsSale) ⟨oneInvoice, []⟩
      (sold 1 8 ++ .start 2 (.ledger (.post 1 (admin 2))) :: List.replicate 4 (.go 2 ⟨[], none, 0, ['h'], false⟩) ++
        .start 3 (.ledger (.reverse 1 ⟨20711, none, ['R']⟩ (admin 3) none)) ::
          List.replicate 7 (.go 3 ⟨['R'], none, 0, ['h'], false⟩) ++ sold 4 1)
    ∃ i, i ∈ S.committed.invoices ∧ i.accountingDocumentId = some 1 ∧ S.committed.ledger.documents.rows.length = 2 ∧
      InLedgerOnce S.committed i := by
  refine ⟨⟨⟨1, 7, none, "F1", 20710, 20720, 1000, 130, 1130, .issued, none⟩, some 1⟩,
    Table.mem_rows.mp (by decide +kernel), rfl, by decide +kernel, ?_⟩
  exact invoice_inLedgerOnce (bridgeMachine.reachable_afterIf (Workers.GoesWhere AdoptsSale) oneInvoice_init _)
    (Table.mem_rows.mp (by decide +kernel))

end AtlasErp
