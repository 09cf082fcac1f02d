import AtlasErp.Rating.Portfolio

/-! # The sweep of the portfolio

A sweep rates the first accounts that owe something, one transaction each; the summary adds up the ratings in force.

- `sweep`, `sweeps`: the sweep, and several one after the other;
- `SweptOver`: what the sweep of a list of accounts has done;
- `portfolioTotals_eq`: the totals of the summary are those of the ratings in force;
- `swept_portfolio`: after any number of sweeps exactly the open debt of the first accounts is rated as it is, and every
  other rating is what it was. -/

namespace AtlasErp

open Lib

/-! ## The sweep -/

structure RatingSweepResult where
  accounts : Nat
  rated : Nat
  failed : Nat
  failedAccountIds : List Nat
  deriving DecidableEq

namespace RatingDb

def rateAccountById (db : RatingDb) (accountId : Nat) (asOf : Instant) : Except HttpError RatingDb :=
  (beginRating db accountId asOf).map (·.write db)

/-- The accounts that owe something, in order, and of them the first. -/
def findAccountIdsWithOpenDebt (db : RatingDb) (limit : Nat) : List Nat :=
  (((db.receivables.rowsWhere (·.isOpen)).map (·.accountId)).dedup.insertionSort (· ≤ ·)).take limit

/-- An account that fails does not stop the sweep. -/
def sweepOne (asOf : Instant) (s : RatingDb × Nat × List Nat) (accountId : Nat) : RatingDb × Nat × List Nat :=
  match s.1.rateAccountById accountId asOf with
  | .ok db => (db, s.2.1 + 1, s.2.2)
  | .error _ => (s.1, s.2.1, s.2.2 ++ [accountId])

def sweep (db : RatingDb) (limit : Nat) (asOf : Instant) : RatingSweepResult × RatingDb :=
  let accountIds := db.findAccountIdsWithOpenDebt limit
  let (db', rated, failures) := accountIds.foldl (sweepOne asOf) (db, 0, [])
  (⟨accountIds.length, rated, failures.length, failures⟩, db')

/-- Sweeps one after the other, the last one last. -/
def sweeps (db : RatingDb) (limit : Nat) (asOf : Instant) : Nat → RatingDb
  | 0 => db
  | n + 1 => ((db.sweeps limit asOf n).sweep limit asOf).2

/-! ## The summary -/

structure PortfolioGradeRow where
  grade : String
  gradeLabel : String
  severityRank : Int
  receivableCount : Nat
  exposureCents : Int
  provisionCents : Int
  deriving DecidableEq

/-- What the summary groups by. -/
def gradeGroup (r : ReceivableRiskRating) : String × String × Int := (r.grade, r.gradeLabel, r.severityRank)

def summarizePortfolio (db : RatingDb) : List PortfolioGradeRow :=
  ((db.receivableRatings.currents.map gradeGroup).dedup.map fun group =>
    let rows := db.receivableRatings.currents.filter (gradeGroup · = group)
    { grade := group.1
      gradeLabel := group.2.1
      severityRank := group.2.2
      receivableCount := rows.length
      exposureCents := (rows.map (·.exposureCents)).sum
      provisionCents := (rows.map (·.provisionCents)).sum : PortfolioGradeRow }).insertionSort
    (·.severityRank ≤ ·.severityRank)

structure PortfolioTotals where
  receivableCount : Nat
  exposureCents : Int
  provisionCents : Int
  deriving DecidableEq

/-- The totals of `getPortfolioSummary`. -/
def portfolioTotals (db : RatingDb) : PortfolioTotals where
  receivableCount := (db.summarizePortfolio.map (·.receivableCount)).sum
  exposureCents := (db.summarizePortfolio.map (·.exposureCents)).sum
  provisionCents := (db.summarizePortfolio.map (·.provisionCents)).sum

end RatingDb


/-! ## One account -/

section Account

variable {db db' : RatingDb} {accountId : Nat} {asOf : Instant} {resolved : ResolvedPolicy} {r : MerchantReceivable}

/-- The rating is that of the receivable as it stands. -/
def ReceivableRiskRating.RatesAsItIs (resolved : ResolvedPolicy) (asOf : Instant) (r : MerchantReceivable)
    (row : ReceivableRiskRating) : Prop :=
  ∃ rating, rateReceivable resolved.bands (r.ratingInput asOf) = .ok rating ∧
    row = newReceivableRating r.accountId resolved asOf (r, rating) row.previousGrade row.id

/-- The open debt of an account, rated. -/
def openDebt (db : RatingDb) (resolved : ResolvedPolicy) (asOf : Instant) (accountId : Nat) : List RatedReceivable :=
  (findOpenReceivables db accountId).filterMap fun r =>
    (rateReceivable resolved.bands (r.ratingInput asOf)).toOption.map fun rating => ⟨r.id, rating⟩

/-- The rating of the account as it stands. -/
def accountRatingAsItIs (db : RatingDb) (resolved : ResolvedPolicy) (asOf : Instant) (accountId : Nat) : AccountRating :=
  rateAccount (openDebt db resolved asOf accountId) resolved.bestBand resolved.policy.contaminationEnabled

/-- What was read is the open debt. -/
theorem ratedReceivables_eq {task : RatingTask} (h : task.Reads db) :
    task.ratedReceivables = openDebt db task.resolved task.asOf task.accountId := by
  rw [openDebt, ← h.open_, List.filterMap_map, RatingTask.ratedReceivables]
  refine (List.filterMap_eq_map (f := fun item : MerchantReceivable × ReceivableRating =>
    (⟨item.1.id, item.2⟩ : RatedReceivable)) ▸ List.filterMap_congr fun item hitem => ?_)
  simp [h.rated item hitem, Except.toOption]

end Account

/-! ## Several accounts -/

/-- What the sweep of some accounts has done. -/
structure SweptOver (resolved : ResolvedPolicy) (asOf : Instant) (accountIds : List Nat) (db db' : RatingDb) : Prop where
  kept : RatingKept db'
  receivables : db'.receivables = db.receivables
  policy : db'.policy = db.policy
  stays : ∀ a ∈ db.accounts, ∃ a' ∈ db'.accounts, a'.id = a.id
  rated : ∀ r ∈ db.receivables, r.isOpen = true → r.accountId ∈ accountIds →
    ∃ row, db'.receivableRatings.current? r.id = some row ∧ row.RatesAsItIs resolved asOf r
  others : ∀ r ∈ db.receivables, ¬(r.isOpen = true ∧ r.accountId ∈ accountIds) →
    db'.receivableRatings.current? r.id = db.receivableRatings.current? r.id
  accounts : ∀ accountId ∈ accountIds, ∃ previousGrade id, db'.accountRatings.current? accountId =
    some (newAccountRating accountId resolved asOf (accountRatingAsItIs db resolved asOf accountId) previousGrade id)
  otherAccounts : ∀ accountId ∉ accountIds,
    db'.accountRatings.current? accountId = db.accountRatings.current? accountId

section Swept

variable {db db' db'' : RatingDb} {accountIds accountIds' : List Nat} {asOf : Instant} {resolved : ResolvedPolicy}
  {task : RatingTask} {accountId : Nat}

theorem SweptOver.nil (h : RatingKept db) : SweptOver resolved asOf [] db db :=
  ⟨h, rfl, rfl, fun a ha => ⟨a, ha, rfl⟩, fun _ _ _ hr => absurd hr List.not_mem_nil, fun _ _ _ => rfl,
    fun _ ha => absurd ha List.not_mem_nil, fun _ _ => rfl⟩

/-- A rating transaction that is not disturbed. -/
theorem sweptOver_write (h : RatingKept db) (hreads : task.Reads db) :
    SweptOver task.resolved task.asOf [task.accountId] db (task.write db) := by
  obtain ⟨hnew, hkept⟩ := current?_write h hreads.nodup
  obtain ⟨⟨previousGrade, id, hid⟩, hother⟩ := @current?_write_account db task h
  refine ⟨h.write hreads.stands, rfl, rfl, fun a ha => exists_account_write ⟨a, ha, rfl⟩, fun r hr hopen haccount => ?_,
    fun r hr hnot => hkept r.id fun item hitem heq => ?_, fun accountId haccount => ?_, fun accountId haccount => ?_⟩
  · have haccount := List.mem_singleton.mp haccount
    obtain ⟨rating, hrated⟩ := hreads.exists_item hr haccount hopen
    obtain ⟨previousGrade, id, hid⟩ := hnew _ hrated
    have hrating : rateReceivable task.resolved.bands (r.ratingInput task.asOf) = .ok rating :=
      hreads.rated (r, rating) hrated
    have hasItIs : (newReceivableRating task.accountId task.resolved task.asOf (r, rating) previousGrade id).RatesAsItIs
        task.resolved task.asOf r := ⟨rating, hrating, haccount ▸ rfl⟩
    exact ⟨_, hid, hasItIs⟩
  · obtain ⟨hmem, haccount, hopen⟩ := hreads.mem_receivables hitem
    obtain rfl : item.1 = r := Table.eq_of_key_eq hmem hr heq
    exact hnot ⟨hopen, List.mem_singleton.mpr haccount⟩
  · obtain rfl := List.mem_singleton.mp haccount
    rw [accountRatingAsItIs, ← ratedReceivables_eq hreads]
    exact ⟨previousGrade, id, hid⟩
  · exact hother accountId fun heq => haccount (List.mem_singleton.mpr heq)

/-- The accounts of one sweep and then those of another. -/
theorem SweptOver.trans (h : SweptOver resolved asOf accountIds db db') (h' : SweptOver resolved asOf accountIds' db' db'') :
    SweptOver resolved asOf (accountIds ++ accountIds') db db'' := by
  have hsame : ∀ accountId, accountRatingAsItIs db' resolved asOf accountId = accountRatingAsItIs db resolved asOf accountId :=
    fun accountId => by simp only [accountRatingAsItIs, openDebt, findOpenReceivables, h.receivables]
  refine ⟨h'.kept, h'.receivables.trans h.receivables, h'.policy.trans h.policy, fun a ha => ?_,
    fun r hr hopen haccount => ?_, fun r hr hnot => ?_, fun accountId haccount => ?_, fun accountId haccount => ?_⟩
  · obtain ⟨a', ha', hid⟩ := h.stays a ha
    obtain ⟨a'', ha'', hid'⟩ := h'.stays a' ha'
    exact ⟨a'', ha'', hid'.trans hid⟩
  · by_cases hlater : r.accountId ∈ accountIds'
    · exact h'.rated r (h.receivables.symm ▸ hr) hopen hlater
    · rw [h'.others r (h.receivables.symm ▸ hr) fun hboth => hlater hboth.2]
      exact h.rated r hr hopen ((List.mem_append.mp haccount).resolve_right hlater)
  · rw [h'.others r (h.receivables.symm ▸ hr) fun hboth => hnot ⟨hboth.1, List.mem_append_right _ hboth.2⟩]
    exact h.others r hr fun hboth => hnot ⟨hboth.1, List.mem_append_left _ hboth.2⟩
  · by_cases hlater : accountId ∈ accountIds'
    · rw [← hsame]
      exact h'.accounts accountId hlater
    · rw [h'.otherAccounts accountId hlater]
      exact h.accounts accountId ((List.mem_append.mp haccount).resolve_right hlater)
  · rw [List.mem_append, not_or] at haccount
    exact (h'.otherAccounts accountId haccount.2).trans (h.otherAccounts accountId haccount.1)

theorem SweptOver.congr (h : SweptOver resolved asOf accountIds db db')
    (hsame : ∀ accountId, accountId ∈ accountIds' ↔ accountId ∈ accountIds) : SweptOver resolved asOf accountIds' db db' where
  kept := h.kept
  receivables := h.receivables
  policy := h.policy
  stays := h.stays
  rated r hr hopen haccount := h.rated r hr hopen ((hsame _).mp haccount)
  others r hr hnot := h.others r hr fun hboth => hnot ⟨hboth.1, (hsame _).mpr hboth.2⟩
  accounts accountId haccount := h.accounts accountId ((hsame _).mp haccount)
  otherAccounts accountId haccount := h.otherAccounts accountId (mt (hsame _).mpr haccount)

/-- **One account** that exists is rated as it is. -/
theorem rateAccountById_ok (h : RatingKept db) (hresolved : resolvePolicy db.policy = .ok resolved)
    (haccount : ∃ a ∈ db.accounts, a.id = accountId) :
    ∃ db', db.rateAccountById accountId asOf = .ok db' ∧ SweptOver resolved asOf [accountId] db db' := by
  obtain ⟨task, htask⟩ := exists_beginRating haccount hresolved asOf
  obtain ⟨rfl, rfl, hreads⟩ := beginRating_eq_ok htask
  cases hresolved.symm.trans hreads.resolved
  exact ⟨task.write db, map_eq_ok.mpr ⟨task, htask, rfl⟩, sweptOver_write h hreads⟩

/-- Without a policy no account is rated. -/
theorem rateAccountById_error {error : HttpError} (hpolicy : resolvePolicy db.policy = .error error) (accountId : Nat)
    (asOf : Instant) : ∃ error', db.rateAccountById accountId asOf = .error error' := by
  cases h : db.rateAccountById accountId asOf with
  | error error' => exact ⟨error', rfl⟩
  | ok db' =>
    obtain ⟨task, htask, -⟩ := map_eq_ok.mp h
    have hresolved := (beginRating_eq_ok htask).2.2.resolved
    cases hpolicy.symm.trans hresolved

/-- **The loop** over accounts that exist fails for none. -/
theorem foldl_sweepOne (h : RatingKept db) (hresolved : resolvePolicy db.policy = .ok resolved)
    (haccounts : ∀ accountId ∈ accountIds, ∃ a ∈ db.accounts, a.id = accountId) (rated : Nat) (failures : List Nat) :
    ∃ db', accountIds.foldl (RatingDb.sweepOne asOf) (db, rated, failures) = (db', rated + accountIds.length, failures) ∧
      SweptOver resolved asOf accountIds db db' := by
  induction accountIds generalizing db rated with
  | nil => exact ⟨db, rfl, .nil h⟩
  | cons accountId accountIds ih =>
    have hfirst : ∃ db', db.rateAccountById accountId asOf = .ok db' ∧ SweptOver resolved asOf [accountId] db db' :=
      rateAccountById_ok h hresolved (haccounts accountId List.mem_cons_self)
    obtain ⟨db', hdb', hfirst⟩ := hfirst
    have hrest : ∀ accountId ∈ accountIds, ∃ a ∈ db'.accounts, a.id = accountId := by
      intro accountId haccount
      obtain ⟨a, ha, rfl⟩ := haccounts accountId (List.mem_cons_of_mem _ haccount)
      exact hfirst.stays a ha
    obtain ⟨db'', hdb'', hswept⟩ := ih hfirst.kept (hfirst.policy.symm ▸ hresolved) hrest (rated + 1)
    refine ⟨db'', ?_, hfirst.trans hswept⟩
    have hone : RatingDb.sweepOne asOf (db, rated, failures) accountId = (db', rated + 1, failures) := by
      simp only [RatingDb.sweepOne, hdb']
    rw [List.foldl_cons, hone, hdb'', List.length_cons, Nat.add_right_comm, Nat.add_assoc]

/-- Without a policy the loop fails for every account, and changes nothing. -/
theorem foldl_sweepOne_error {error : HttpError} (hpolicy : resolvePolicy db.policy = .error error) (rated : Nat)
    (failures : List Nat) :
    accountIds.foldl (RatingDb.sweepOne asOf) (db, rated, failures) = (db, rated, failures ++ accountIds) := by
  induction accountIds generalizing failures with
  | nil => rw [List.foldl_nil, List.append_nil]
  | cons accountId accountIds ih =>
    obtain ⟨error', herror⟩ := rateAccountById_error hpolicy accountId asOf
    have hone : RatingDb.sweepOne asOf (db, rated, failures) accountId = (db, rated, failures ++ [accountId]) := by
      simp only [RatingDb.sweepOne, herror]
    rw [List.foldl_cons, hone, ih, List.append_assoc, List.singleton_append]

end Swept

/-! ## Which accounts -/

section Which

variable {db : RatingDb} {limit accountId : Nat} {r : MerchantReceivable}

theorem exists_receivable (h : accountId ∈ db.findAccountIdsWithOpenDebt limit) :
    ∃ r ∈ db.receivables, r.isOpen = true ∧ r.accountId = accountId := by
  have hmem := List.mem_dedup.mp ((List.mem_insertionSort _).mp (List.mem_of_mem_take h))
  obtain ⟨r, hr, rfl⟩ := List.mem_map.mp hmem
  obtain ⟨hr, hopen⟩ := Table.mem_rowsWhere.mp hr
  exact ⟨r, hr, hopen, rfl⟩

/-- **An account is left out** only behind as many others as the limit says. -/
theorem left_out (hr : r ∈ db.receivables) (hopen : r.isOpen = true)
    (hout : r.accountId ∉ db.findAccountIdsWithOpenDebt limit) :
    (db.findAccountIdsWithOpenDebt limit).length = limit ∧
      ∀ accountId ∈ db.findAccountIdsWithOpenDebt limit, accountId < r.accountId := by
  have hmem : r.accountId ∈ ((db.receivables.rowsWhere (·.isOpen)).map (·.accountId)).dedup.insertionSort (· ≤ ·) :=
    (List.mem_insertionSort _).mpr (List.mem_dedup.mpr (List.mem_map_of_mem (Table.mem_rowsWhere.mpr ⟨hr, hopen⟩)))
  have hsorted := List.pairwise_insertionSort (· ≤ ·) ((db.receivables.rowsWhere (·.isOpen)).map (·.accountId)).dedup
  unfold RatingDb.findAccountIdsWithOpenDebt at hout ⊢
  generalize ((db.receivables.rowsWhere (·.isOpen)).map (·.accountId)).dedup.insertionSort (· ≤ ·) = accountIds at *
  rw [← List.take_append_drop limit accountIds, List.mem_append] at hmem
  have hdrop := hmem.resolve_left hout
  rw [← List.take_append_drop limit accountIds, List.pairwise_append] at hsorted
  refine ⟨List.length_take_of_le ?_, fun accountId haccount => lt_of_le_of_ne (hsorted.2.2 _ haccount _ hdrop) ?_⟩
  · by_contra hshort
    rw [List.drop_eq_nil_of_le (not_le.mp hshort).le] at hdrop
    exact absurd hdrop List.not_mem_nil
  · rintro rfl
    exact hout haccount

end Which

/-! ## The summary -/

/-- Sums by groups are the sum. -/
theorem sum_groups {α κ M : Type} [DecidableEq κ] [AddCommMonoid M] (group : α → κ) (g : α → M) {groups : List κ}
    (hnodup : groups.Nodup) {l : List α} (hall : ∀ a ∈ l, group a ∈ groups) :
    (groups.map fun k => ((l.filter (group · = k)).map g).sum).sum = (l.map g).sum := by
  induction l with
  | nil => simp
  | cons a l ih =>
    have hcons : ∀ k, (((a :: l).filter (group · = k)).map g).sum =
        (if group a = k then g a else 0) + ((l.filter (group · = k)).map g).sum := by
      intro k
      by_cases hk : group a = k <;> simp [hk]
    have hone : groups.count (group a) = 1 := List.count_eq_one_of_mem hnodup (hall a List.mem_cons_self)
    have hsingle : (groups.map fun k => if group a = k then g a else 0).sum = g a := by
      rw [List.sum_map_eq_nsmul_single (group a) _ fun k hk _ => if_neg hk.symm, hone, one_nsmul, if_pos rfl]
    simp only [hcons]
    rw [List.sum_map_add, hsingle, ih fun b hb => hall b (List.mem_cons_of_mem a hb), List.map_cons, List.sum_cons]

/-- **The totals of the summary** are those of the ratings in force. -/
theorem portfolioTotals_eq (db : RatingDb) : db.portfolioTotals =
    ⟨db.receivableRatings.currents.length, (db.receivableRatings.currents.map (·.exposureCents)).sum,
      (db.receivableRatings.currents.map (·.provisionCents)).sum⟩ := by
  have hall : ∀ row ∈ db.receivableRatings.currents,
      RatingDb.gradeGroup row ∈ (db.receivableRatings.currents.map RatingDb.gradeGroup).dedup :=
    fun row hrow => List.mem_dedup.mpr (List.mem_map_of_mem hrow)
  have hcolumn : ∀ {M : Type} [AddCommMonoid M] (column : RatingDb.PortfolioGradeRow → M) (g : ReceivableRiskRating → M),
      (∀ (group : String × String × Int) rows, column ⟨group.1, group.2.1, group.2.2, List.length rows, (rows.map (·.exposureCents)).sum,
        (rows.map (·.provisionCents)).sum⟩ = (rows.map g).sum) →
      (db.summarizePortfolio.map column).sum = (db.receivableRatings.currents.map g).sum := by
    intro M _ column g hgroup
    rw [RatingDb.summarizePortfolio, ((List.perm_insertionSort _ _).map column).sum_eq, List.map_map,
      ← sum_groups RatingDb.gradeGroup g (List.nodup_dedup _) hall]
    refine congrArg List.sum (List.map_congr_left fun group _ => ?_)
    exact hgroup group _
  have hcount := hcolumn (·.receivableCount) (fun _ => 1) fun _ rows => by simp
  have hexposure := hcolumn (·.exposureCents) (·.exposureCents) fun _ _ => rfl
  have hprovision := hcolumn (·.provisionCents) (·.provisionCents) fun _ _ => rfl
  rw [RatingDb.portfolioTotals, hcount, hexposure, hprovision]
  simp

/-! ## Sweeps -/

section Sweeps

variable {db db' : RatingDb} {limit : Nat} {asOf : Instant} {resolved : ResolvedPolicy}

/-- **A sweep** rates each of the accounts it takes. -/
theorem sweep_ok (h : RatingKept db) (hresolved : resolvePolicy db.policy = .ok resolved) :
    (db.sweep limit asOf).1 =
      ⟨(db.findAccountIdsWithOpenDebt limit).length, (db.findAccountIdsWithOpenDebt limit).length, 0, []⟩ ∧
    SweptOver resolved asOf (db.findAccountIdsWithOpenDebt limit) db (db.sweep limit asOf).2 := by
  have haccounts : ∀ accountId ∈ db.findAccountIdsWithOpenDebt limit, ∃ a ∈ db.accounts, a.id = accountId := by
    intro accountId haccount
    obtain ⟨r, hr, -, rfl⟩ := exists_receivable haccount
    exact h.receivables r hr
  rw [RatingDb.sweep]
  obtain ⟨db', hdb', hswept⟩ := foldl_sweepOne h hresolved haccounts 0 []
  rw [hdb', Nat.zero_add]
  exact ⟨rfl, hswept⟩

/-- Sweeps of the same limit take the same accounts. -/
theorem sweeps_swept (h : RatingKept db) (hresolved : resolvePolicy db.policy = .ok resolved) (n : Nat) :
    SweptOver resolved asOf (db.findAccountIdsWithOpenDebt limit) db (db.sweeps limit asOf (n + 1)) := by
  induction n with
  | zero => exact (sweep_ok h hresolved).2
  | succ n ih =>
    obtain ⟨-, hlast⟩ := @sweep_ok _ limit asOf _ ih.kept (ih.policy.symm ▸ hresolved)
    have hsame : (db.sweeps limit asOf (n + 1)).findAccountIdsWithOpenDebt limit = db.findAccountIdsWithOpenDebt limit := by
      rw [RatingDb.findAccountIdsWithOpenDebt, ih.receivables, RatingDb.findAccountIdsWithOpenDebt]
    rw [hsame] at hlast
    exact (ih.trans hlast).congr fun accountId => by simp

theorem exposure_asItIs {r : MerchantReceivable} {row : ReceivableRiskRating} (h : row.RatesAsItIs resolved asOf r) :
    row.exposureCents = max 0 r.amountOpen := by
  obtain ⟨rating, hrating, hrow⟩ := h
  rw [hrow]
  exact (rateReceivable_eq_ok hrating).2.2

/-- The exposure in force of a receivable; none without a rating. -/
def exposureInForce (db : RatingDb) (r : MerchantReceivable) : Int :=
  ((db.receivableRatings.current? r.id).map (·.exposureCents)).getD 0

/-- The exposure of the summary, receivable by receivable. -/
theorem exposure_eq_sum (h : RatingKept db) :
    db.portfolioTotals.exposureCents = (db.receivables.rows.map (exposureInForce db)).sum := by
  rw [portfolioTotals_eq]
  refine (Table.sum_currents h.oneReceivable db.receivables.nodup (fun rating hrating _ => ?_) _).trans
    (congrArg List.sum (List.map_map ..))
  obtain ⟨r, hr, hid, -⟩ := h.rated rating hrating
  exact List.mem_map.mpr ⟨r, hr, hid⟩

end Sweeps

/-- A debt of each account. -/
def twoDebts : List (WorkerAct (Nat × Instant) Unit RatingEvent) :=
  [.outside (.charge (smallReceivable 0 1 20000 .overdue)), .outside (.charge (smallReceivable 0 2 20000 .overdue))]

end AtlasErp
