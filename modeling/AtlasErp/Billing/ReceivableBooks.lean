import AtlasErp.Billing.Payments

/-! # The books of the receivables

What is open of a receivable is what was charged less what was allocated to it, whoever allocates.

- `ReceivableBooks`: the open amounts account for the allocations;
- `ReceivableBooks.allocate`: an allocation keeps the books;
- `receivablesOf_allocate`: it leaves the receivables of the other invoices alone. -/

namespace AtlasErp

open Lib

/-- The open amount of every receivable accounts for its allocations. -/
structure ReceivableBooks (db : BillingDb) : Prop where
  bounds : ∀ r ∈ db.receivables, 0 ≤ r.amountOpen ∧ r.amountOpen ≤ r.amountOriginal
  allocated : ∀ r ∈ db.receivables, db.allocatedTo r.id = r.amountOriginal - r.amountOpen
  allocations : ∀ a ∈ db.allocations, ∃ r ∈ db.receivables, r.id = a.receivableId
  pending : ∀ r ∈ db.receivables, r.status = .pending → r.amountOpen = r.amountOriginal

section Status

variable {db : BillingDb}

theorem mem_receivablesOf {k : Nat} {r : MerchantReceivable} :
    r ∈ db.receivablesOf k ↔ r ∈ db.receivables ∧ r.invoiceId = some k := by
  simp [BillingDb.receivablesOf, Table.mem_rowsWhere]

/-- The status of an invoice only depends on which amounts its receivables have. -/
theorem paymentStatusOf_congr {rs rs' : List MerchantReceivable}
    (h : ∀ o a, (∃ r ∈ rs, r.amountOpen = o ∧ r.amountOriginal = a) ↔
      ∃ r ∈ rs', r.amountOpen = o ∧ r.amountOriginal = a) :
    paymentStatusOf rs = paymentStatusOf rs' := by
  have hclosed : ∀ {rs rs' : List MerchantReceivable},
      (∀ o a, (∃ r ∈ rs', r.amountOpen = o ∧ r.amountOriginal = a) →
        ∃ r ∈ rs, r.amountOpen = o ∧ r.amountOriginal = a) →
      rs.all (·.amountOpen = 0) = true → rs'.all (·.amountOpen = 0) = true := by
    intro rs rs' h hall
    refine List.all_eq_true.mpr fun r' hr' => ?_
    obtain ⟨r, hr, ho, -⟩ := h _ _ ⟨r', hr', rfl, rfl⟩
    have hzero := of_decide_eq_true (List.all_eq_true.mp hall r hr)
    exact decide_eq_true (ho ▸ hzero)
  have hsomePaid : ∀ {rs rs' : List MerchantReceivable},
      (∀ o a, (∃ r ∈ rs, r.amountOpen = o ∧ r.amountOriginal = a) →
        ∃ r ∈ rs', r.amountOpen = o ∧ r.amountOriginal = a) →
      rs.any (fun r => r.amountOpen < r.amountOriginal) = true →
      rs'.any (fun r => r.amountOpen < r.amountOriginal) = true := by
    intro rs rs' h hany
    obtain ⟨r, hr, hlt⟩ := List.any_eq_true.mp hany
    obtain ⟨r', hr', ho, ha⟩ := h _ _ ⟨r, hr, rfl, rfl⟩
    refine List.any_eq_true.mpr ⟨r', hr', decide_eq_true ?_⟩
    rw [ho, ha]
    exact of_decide_eq_true hlt
  have hall : rs.all (·.amountOpen = 0) = rs'.all (·.amountOpen = 0) :=
    Bool.eq_iff_iff.mpr ⟨hclosed fun o a => (h o a).mpr, hclosed fun o a => (h o a).mp⟩
  have hany : rs.any (fun r => r.amountOpen < r.amountOriginal) =
      rs'.any (fun r => r.amountOpen < r.amountOriginal) :=
    Bool.eq_iff_iff.mpr ⟨hsomePaid fun o a => (h o a).mp, hsomePaid fun o a => (h o a).mpr⟩
  unfold paymentStatusOf
  rw [hall, hany]

theorem paymentStatusOf_eq_paid {rs : List MerchantReceivable} :
    paymentStatusOf rs = .paid ↔ ∀ r ∈ rs, r.amountOpen = 0 := by
  unfold paymentStatusOf
  by_cases hall : rs.all (·.amountOpen = 0) = true
  · rw [if_pos hall]
    exact iff_of_true rfl fun r hr => of_decide_eq_true (List.all_eq_true.mp hall r hr)
  · rw [if_neg hall]
    refine iff_of_false (by split <;> nofun) fun hzero => hall (List.all_eq_true.mpr fun r hr => ?_)
    exact decide_eq_true (hzero r hr)

theorem paymentStatusOf_eq_partiallyPaid {rs : List MerchantReceivable} :
    paymentStatusOf rs = .partiallyPaid ↔
      (∃ r ∈ rs, r.amountOpen < r.amountOriginal) ∧ ∃ r ∈ rs, r.amountOpen ≠ 0 := by
  have hany : rs.any (fun r => r.amountOpen < r.amountOriginal) = true ↔
      ∃ r ∈ rs, r.amountOpen < r.amountOriginal := by simp
  have hpaid := @paymentStatusOf_eq_paid rs
  by_cases hall : ∀ r ∈ rs, r.amountOpen = 0
  · rw [hpaid.mpr hall]
    refine iff_of_false nofun ?_
    rintro ⟨-, r, hr, hne⟩
    exact hne (hall r hr)
  · have hopen : ∃ r ∈ rs, r.amountOpen ≠ 0 := by simpa using hall
    have hnot : ¬rs.all (·.amountOpen = 0) = true := by simpa using hopen
    rw [and_iff_left hopen, ← hany]
    unfold paymentStatusOf
    rw [if_neg hnot]
    split <;> simp [*]

/-- A sum of amounts that are not negative is positive when some amount is. -/
theorem sum_pos_iff {rs : List MerchantReceivable} {f : MerchantReceivable → Int} (h : ∀ r ∈ rs, 0 ≤ f r) :
    0 < (rs.map f).sum ↔ ∃ r ∈ rs, 0 < f r := by
  induction rs with
  | nil => simp
  | cons r rs ih =>
    have hr := h r List.mem_cons_self
    have hrest : ∀ x ∈ rs, 0 ≤ f x := fun x hx => h x (List.mem_cons_of_mem r hx)
    have hsum : 0 ≤ (rs.map f).sum := by
      refine List.sum_nonneg fun a ha => ?_
      obtain ⟨x, hx, rfl⟩ := List.mem_map.mp ha
      exact hrest x hx
    simp only [List.map_cons, List.sum_cons, List.mem_cons, exists_eq_or_imp, ← ih hrest]
    omega

theorem paymentStatusOf_ne_cancelled (rs : List MerchantReceivable) : paymentStatusOf rs ≠ .cancelled := by
  unfold paymentStatusOf
  split
  · nofun
  · split <;> nofun

/-- When nothing of an invoice is settled, and there is something to settle, it is ISSUED. -/
theorem paymentStatusOf_issued {rs : List MerchantReceivable} (hnonempty : rs ≠ [])
    (h : ∀ r ∈ rs, 0 < r.amountOpen ∧ r.amountOpen = r.amountOriginal) : paymentStatusOf rs = .issued := by
  unfold paymentStatusOf
  rw [if_neg, if_neg]
  · intro hany
    obtain ⟨r, hr, hlt⟩ := List.any_eq_true.mp hany
    have hless := of_decide_eq_true hlt
    have hsame := (h r hr).2
    omega
  · intro hall
    obtain ⟨r, hr⟩ := List.exists_mem_of_ne_nil rs hnonempty
    have hzero := of_decide_eq_true (List.all_eq_true.mp hall r hr)
    have hpos := (h r hr).1
    omega

end Status

/-- What was charged on an invoice. -/
def BillingDb.billedOn (db : BillingDb) (invoiceId : Nat) : Int :=
  ((db.receivablesOf invoiceId).map (·.amountOriginal)).sum

/-- What is settled of an invoice is what was billed on it less what is open. -/
theorem ReceivableBooks.allocatedToInvoice_eq {db : BillingDb} (h : ReceivableBooks db) (k : Nat) :
    db.allocatedToInvoice k = ((db.receivablesOf k).map fun r => r.amountOriginal - r.amountOpen).sum ∧
      db.billedOn k = db.allocatedToInvoice k + ((db.receivablesOf k).map (·.amountOpen)).sum := by
  have hall : ∀ r ∈ db.receivablesOf k, db.allocatedTo r.id = r.amountOriginal - r.amountOpen := fun r hr =>
    h.allocated r (mem_receivablesOf.mp hr).1
  have hsum : db.allocatedToInvoice k =
      ((db.receivablesOf k).map fun r => r.amountOriginal - r.amountOpen).sum := by
    rw [BillingDb.allocatedToInvoice, List.map_congr_left hall]
  refine ⟨hsum, ?_⟩
  have hadd := @List.sum_map_add _ _ _ (db.receivablesOf k) (fun r => r.amountOriginal - r.amountOpen)
    (·.amountOpen)
  simp only [sub_add_cancel] at hadd
  rw [hsum, ← hadd]
  rfl

section Allocate

variable {db : BillingDb} {paymentId : Nat} {r : MerchantReceivable} {applied : Int}

/-- The receivables after an allocation. -/
theorem mem_allocate (hr : r ∈ db.receivables) {x : MerchantReceivable} :
    x ∈ (db.allocate paymentId r applied).receivables ↔
      x = r.pay applied ∨ (x ∈ db.receivables ∧ x.id ≠ r.id) :=
  Table.mem_put (r := r.pay applied) hr rfl

/-- An allocation changes what is open of a receivable and its status; nothing else of it. -/
theorem of_mem_allocate (hr : r ∈ db.receivables) {x : MerchantReceivable}
    (hx : x ∈ (db.allocate paymentId r applied).receivables) :
    ∃ y ∈ db.receivables, y.id = x.id ∧ y.invoiceId = x.invoiceId ∧ y.amountOriginal = x.amountOriginal ∧
      y.currency = x.currency := by
  rcases (mem_allocate hr).mp hx with rfl | ⟨hx, -⟩
  · exact ⟨r, hr, rfl, rfl, rfl, rfl⟩
  · exact ⟨x, hx, rfl, rfl, rfl, rfl⟩

theorem kept_by_allocate (hr : r ∈ db.receivables) {x : MerchantReceivable} (hx : x ∈ db.receivables) :
    ∃ y ∈ (db.allocate paymentId r applied).receivables, y.id = x.id ∧ y.invoiceId = x.invoiceId := by
  by_cases hid : x.id = r.id
  · obtain rfl : x = r := Table.eq_of_key_eq hx hr hid
    exact ⟨x.pay applied, (mem_allocate hr).mpr (.inl rfl), rfl, rfl⟩
  · exact ⟨x, (mem_allocate hr).mpr (.inr ⟨hx, hid⟩), rfl, rfl⟩

/-- An allocation leaves the receivables of the other invoices alone. -/
theorem receivablesOf_allocate (hr : r ∈ db.receivables) {k : Nat} (hk : r.invoiceId ≠ some k) :
    (db.allocate paymentId r applied).receivablesOf k = db.receivablesOf k :=
  Table.rowsWhere_put_of_not (r := r.pay applied) hr rfl (decide_eq_false hk) (decide_eq_false hk)

theorem allocatedTo_allocate (k : Nat) : (db.allocate paymentId r applied).allocatedTo k =
    db.allocatedTo k + if r.id = k then applied else 0 :=
  Table.total_create _ fun _ => rfl

/-- **An allocation keeps the books.** -/
theorem ReceivableBooks.allocate (h : ReceivableBooks db) (hr : r ∈ db.receivables) (hpos : 0 < applied)
    (hfits : applied ≤ r.amountOpen) : ReceivableBooks (db.allocate paymentId r applied) := by
  have hbounds := h.bounds r hr
  refine ⟨fun x hx => ?_, fun x hx => ?_, fun a ha => ?_, fun x hx hpending => ?_⟩
  · rcases (mem_allocate hr).mp hx with rfl | ⟨hx, -⟩
    · simp only [MerchantReceivable.pay]
      omega
    · exact h.bounds x hx
  · rw [allocatedTo_allocate]
    rcases (mem_allocate hr).mp hx with rfl | ⟨hx, hne⟩
    · have hbefore := h.allocated r hr
      simp only [MerchantReceivable.pay, if_true]
      omega
    · rw [if_neg fun heq => hne heq.symm, add_zero]
      exact h.allocated x hx
  · have hcreate := @Table.mem_create _ _ db.allocations (fun id => ⟨id, paymentId, r.id, applied⟩)
      (fun _ => rfl) a
    rcases hcreate.mp ha with ha | rfl
    · obtain ⟨x, hx, hid⟩ := h.allocations a ha
      obtain ⟨y, hy, hyid, -⟩ := kept_by_allocate hr hx
      exact ⟨y, hy, hyid.trans hid⟩
    · exact ⟨r.pay applied, (mem_allocate hr).mpr (.inl rfl), rfl⟩
  · rcases (mem_allocate hr).mp hx with rfl | ⟨hx, -⟩
    · simp only [MerchantReceivable.pay] at hpending
      split at hpending <;> cases hpending
    · exact h.pending x hx hpending

theorem mem_touch {touched : List Nat} {invoiceId : Option Nat} {k : Nat} :
    k ∈ touch touched invoiceId ↔ k ∈ touched ∨ invoiceId = some k := by
  cases invoiceId with
  | none => simp [touch]
  | some id =>
    by_cases hcontains : touched.contains id = true
    · simp only [touch, hcontains, if_true, Option.some.injEq]
      refine ⟨.inl, ?_⟩
      rintro (hk | rfl)
      · exact hk
      · exact List.contains_iff_mem.mp hcontains
    · simp only [touch, hcontains, Bool.false_eq_true, if_false, List.mem_append, List.mem_singleton,
        Option.some.injEq]
      exact or_congr_right eq_comm

end Allocate

end AtlasErp
