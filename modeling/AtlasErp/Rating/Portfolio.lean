import AtlasErp.Billing.Model
import AtlasErp.Lib.Versions
import AtlasErp.Lib.Workers
import AtlasErp.Rating.Account

/-! # The rated portfolio

The open receivables of an account are rated, and the account with them, in one transaction.  A rating takes the place
of the one in force; what a transaction read may have changed when it commits.

- `beginRating`, `RatingTask.write`: a rating transaction, what it reads and what it commits;
- `ratingMachine`: ratings in any interleaving, while receivables, accounts and the policy change;
- `RatingKept`: what the tables keep in every run;
- `ratings_in_force`: one rating in force for each receivable and account, shown on the account, and never lost. -/

namespace AtlasErp

open Lib

/-! ## Tables -/

/-- The row of `rating_policy_versions` that is `ACTIVE`, with its bands. -/
structure RatingPolicy where
  id : Nat
  policyCode : String
  versionCode : String
  contaminationEnabled : Bool
  bands : List RatingBand
  deriving DecidableEq

/-- `b2b_accounts`, what ratings write of it. -/
structure RatedB2BAccount where
  id : Nat
  riskRatingGrade : Option String
  riskRatingUpdatedAt : Option Instant
  deriving DecidableEq

/-- `receivable_risk_ratings`. -/
structure ReceivableRiskRating where
  id : Nat
  receivableId : Nat
  accountId : Nat
  policyVersionId : Nat
  grade : String
  gradeLabel : String
  severityRank : Int
  daysPastDue : Int
  receivableStatus : ReceivableStatus
  exposureCents : Int
  provisionRate : JsNumber
  provisionCents : Int
  previousGrade : Option String
  ratingReason : ReceivableRatingReason
  isCurrent : Bool
  ratedAt : Instant
  deriving DecidableEq

/-- `b2b_account_risk_ratings`. -/
structure AccountRiskRating where
  id : Nat
  accountId : Nat
  policyVersionId : Nat
  grade : String
  gradeLabel : String
  severityRank : Int
  worstDaysPastDue : Int
  ratedReceivableCount : Nat
  totalExposureCents : Int
  totalProvisionCents : Int
  drivingReceivableId : Option Nat
  previousGrade : Option String
  ratingReason : AccountRatingReason
  isCurrent : Bool
  ratedAt : Instant
  deriving DecidableEq

instance : HasKey RatedB2BAccount := ⟨(·.id), fun k r => { r with id := k }, fun _ _ => rfl, fun _ => rfl⟩
instance : HasKey ReceivableRiskRating := ⟨(·.id), fun k r => { r with id := k }, fun _ _ => rfl, fun _ => rfl⟩
instance : HasKey AccountRiskRating := ⟨(·.id), fun k r => { r with id := k }, fun _ _ => rfl, fun _ => rfl⟩

instance : Versioned ReceivableRiskRating where
  subject := (·.receivableId)
  isCurrent := (·.isCurrent)
  retire r := { r with isCurrent := false }
  key_retire _ := rfl
  subject_retire _ := rfl
  isCurrent_retire _ := rfl

instance : Versioned AccountRiskRating where
  subject := (·.accountId)
  isCurrent := (·.isCurrent)
  retire r := { r with isCurrent := false }
  key_retire _ := rfl
  subject_retire _ := rfl
  isCurrent_retire _ := rfl

structure RatingDb where
  policy : Option RatingPolicy
  accounts : Table RatedB2BAccount
  receivables : Table MerchantReceivable
  receivableRatings : Table ReceivableRiskRating
  accountRatings : Table AccountRiskRating

/-! ## One account -/

/-- The status is not one of `CLOSED_RECEIVABLE_STATUSES`. -/
def MerchantReceivable.isOpen (r : MerchantReceivable) : Bool := r.status ≠ .paid ∧ r.status ≠ .cancelled

/-- Calendar days in UTC. -/
def daysPastDueFor (dueDate : Day) (asOf : Instant) : Int :=
  let days := asOf / 86400000 - dueDate
  if 0 < days then days else 0

structure ResolvedPolicy where
  policy : RatingPolicy
  bands : List RatingBand
  bestBand : RatingBand
  deriving DecidableEq

def scaleInvalid (policy : RatingPolicy) (message : String) : HttpError :=
  ⟨.unprocessableEntity, none,
    "RATING_POLICY_SCALE_INVALID: " ++ policy.policyCode ++ "/" ++ policy.versionCode ++ " — " ++ message⟩

def resolvePolicy (active : Option RatingPolicy) : Except HttpError ResolvedPolicy := do
  let policy ← orFail active ⟨.unprocessableEntity, none, "RATING_POLICY_NOT_ACTIVE"⟩
  let bands ← (normalizeScale policy.bands).mapError fun e => scaleInvalid policy e.message
  let bestBand ← orFail bands.head? (scaleInvalid policy "previsión no numérica.")
  return ⟨policy, bands, bestBand⟩

def MerchantReceivable.ratingInput (r : MerchantReceivable) (asOf : Instant) : ReceivableRatingInput :=
  ⟨daysPastDueFor r.dueDate asOf, r.amountOpen, r.status = .disputed⟩

/-- What a rating transaction read and worked out. -/
structure RatingTask where
  accountId : Nat
  asOf : Instant
  resolved : ResolvedPolicy
  rated : List (MerchantReceivable × ReceivableRating)

section Transaction

variable (db : RatingDb)

def findOpenReceivables (accountId : Nat) : List MerchantReceivable :=
  (db.receivables.rowsWhere fun r => r.accountId = accountId && r.isOpen).insertionSort (·.dueDate ≤ ·.dueDate)

def rateOpenReceivable (resolved : ResolvedPolicy) (asOf : Instant) (r : MerchantReceivable) :
    Except HttpError (MerchantReceivable × ReceivableRating) :=
  ((rateReceivable resolved.bands (r.ratingInput asOf)).mapError fun e => ⟨.internalServerError, none, e.message⟩).map
    fun rating => (r, rating)

/-- What `rateAccountById` does before it writes. -/
def beginRating (accountId : Nat) (asOf : Instant) : Except HttpError RatingTask := do
  let _ ← orFail (db.accounts.find? accountId) (notFound "Cuenta B2B no encontrada.")
  let resolved ← resolvePolicy db.policy
  let rated ← (findOpenReceivables db accountId).mapM (rateOpenReceivable resolved asOf)
  return ⟨accountId, asOf, resolved, rated⟩

end Transaction

/-- The values of the rating of a receivable. -/
def newReceivableRating (accountId : Nat) (resolved : ResolvedPolicy) (asOf : Instant)
    (item : MerchantReceivable × ReceivableRating) (previousGrade : Option String) (id : Nat) : ReceivableRiskRating where
  id
  receivableId := item.1.id
  accountId
  policyVersionId := resolved.policy.id
  grade := item.2.band.grade
  gradeLabel := item.2.band.gradeLabel
  severityRank := item.2.band.severityRank
  daysPastDue := item.2.daysPastDue
  receivableStatus := item.1.status
  exposureCents := item.2.exposureCents
  provisionRate := item.2.band.provisionRate
  provisionCents := item.2.provisionCents
  previousGrade
  ratingReason := item.2.reason
  isCurrent := true
  ratedAt := asOf

/-- The values of the rating of an account. -/
def newAccountRating (accountId : Nat) (resolved : ResolvedPolicy) (asOf : Instant) (rating : AccountRating)
    (previousGrade : Option String) (id : Nat) : AccountRiskRating where
  id
  accountId
  policyVersionId := resolved.policy.id
  grade := rating.band.grade
  gradeLabel := rating.band.gradeLabel
  severityRank := rating.band.severityRank
  worstDaysPastDue := rating.worstDaysPastDue
  ratedReceivableCount := rating.ratedReceivableCount
  totalExposureCents := rating.totalExposureCents
  totalProvisionCents := rating.totalProvisionCents
  drivingReceivableId := rating.drivingReceivableId
  previousGrade
  ratingReason := rating.reason
  isCurrent := true
  ratedAt := asOf

/-- What `projectGradeOnAccount` sets. -/
def projectGrade (grade : String) (ratedAt : Instant) (a : RatedB2BAccount) : RatedB2BAccount :=
  { a with riskRatingGrade := some grade, riskRatingUpdatedAt := some ratedAt }

namespace RatingTask

variable (task : RatingTask)

def ratedReceivables : List RatedReceivable := task.rated.map fun item => ⟨item.1.id, item.2⟩

def accountRating : AccountRating :=
  rateAccount task.ratedReceivables task.resolved.bestBand task.resolved.policy.contaminationEnabled

/-- What the transaction commits.  Two that take the place of one rating at once are told apart by the unique index over
the ratings in force: the later one fails. -/
def write (db : RatingDb) : RatingDb :=
  { db with
    receivableRatings := db.receivableRatings.supersedeEach (fun item => item.1.id)
      (fun item previous => newReceivableRating task.accountId task.resolved task.asOf item (previous.map (·.grade)))
      task.rated
    accountRatings := db.accountRatings.supersede task.accountId
      (newAccountRating task.accountId task.resolved task.asOf task.accountRating
        ((db.accountRatings.current? task.accountId).map (·.grade)))
    accounts := db.accounts.updateWhere (·.id = task.accountId) (projectGrade task.accountRating.band.grade task.asOf) }

end RatingTask

/-! ## Any interleaving -/

/-- What others do meanwhile. -/
inductive RatingEvent where
  | account
  | charge (r : MerchantReceivable)
  /-- A payment, a cancellation, a dispute: the receivable stays with its account. -/
  | change (r : MerchantReceivable)
  | policy (active : Option RatingPolicy)

def RatingEvent.apply (db : RatingDb) : RatingEvent → Option RatingDb
  | .account => some { db with accounts := db.accounts.create fun id => ⟨id, none, none⟩ }
  | .charge r =>
    if (db.accounts.find? r.accountId).isSome then
      some { db with receivables := db.receivables.create fun id => { r with id } } else none
  | .change r => (db.receivables.find? r.id).bind fun old =>
    if r.accountId = old.accountId then some { db with receivables := db.receivables.put r } else none
  | .policy active => some { db with policy := active }

def ratingWorkers : Workers RatingDb (Nat × Instant) Unit RatingEvent Empty RatingTask where
  start request db := (beginRating db request.1 request.2).toOption
  holds _ := []
  next task _ db := some (task.write db, none)
  outside event db := event.apply db

/-- From no rating, no receivable and accounts without a grade. -/
structure RatingDb.Fresh (db : RatingDb) : Prop where
  receivables : db.receivables = Table.empty
  receivableRatings : db.receivableRatings = Table.empty
  accountRatings : db.accountRatings = Table.empty
  accounts : ∀ a ∈ db.accounts, a.riskRatingGrade = none ∧ a.riskRatingUpdatedAt = none

def ratingMachine : Machine (Sessions RatingDb RatingTask) (WorkerAct (Nat × Instant) Unit RatingEvent) :=
  ratingWorkers.machine RatingDb.Fresh

/-! ## What a transaction reads -/

section Reads

variable {db : RatingDb} {accountId : Nat} {asOf : Instant} {task : RatingTask} {resolved : ResolvedPolicy}
  {active : Option RatingPolicy} {r : MerchantReceivable} {item : MerchantReceivable × ReceivableRating}

theorem resolvePolicy_eq_ok (h : resolvePolicy active = .ok resolved) :
    active = some resolved.policy ∧ normalizeScale resolved.policy.bands = .ok resolved.bands ∧
      resolved.bands.head? = some resolved.bestBand := by
  obtain ⟨policy, hpolicy, h⟩ := orFail_bind_eq_ok.mp h
  obtain ⟨bands, hbands, h⟩ := bind_eq_ok.mp h
  obtain ⟨bestBand, hbest, h⟩ := orFail_bind_eq_ok.mp h
  obtain rfl := pure_eq_ok.mp h
  exact ⟨hpolicy, mapError_eq_ok.mp hbands, hbest⟩

/-- Under a policy that was resolved every receivable has a rating. -/
theorem exists_rateReceivable (h : resolvePolicy active = .ok resolved) (input : ReceivableRatingInput) :
    ∃ rating, rateReceivable resolved.bands input = .ok rating := by
  obtain ⟨band, hband⟩ := exists_bandForDaysPastDue (normalizeScale_idem (resolvePolicy_eq_ok h).2.1) input.daysPastDue
  exact ⟨_, bind_eq_ok.mpr ⟨band, hband, rfl⟩⟩

theorem mem_findOpenReceivables :
    r ∈ findOpenReceivables db accountId ↔ r ∈ db.receivables ∧ r.accountId = accountId ∧ r.isOpen = true := by
  rw [findOpenReceivables, List.mem_insertionSort, Table.mem_rowsWhere]
  simp

theorem nodup_findOpenReceivables : ((findOpenReceivables db accountId).map (·.id)).Nodup := by
  refine ((List.perm_insertionSort _ _).map _).nodup_iff.mpr ?_
  exact db.receivables.nodup.sublist (List.filter_sublist.map _)

theorem rateOpenReceivable_eq_ok : rateOpenReceivable resolved asOf r = .ok item ↔
    item.1 = r ∧ rateReceivable resolved.bands (r.ratingInput asOf) = .ok item.2 := by
  rw [rateOpenReceivable, map_eq_ok]
  constructor
  · rintro ⟨rating, hrating, rfl⟩
    exact ⟨rfl, mapError_eq_ok.mp hrating⟩
  · rintro ⟨rfl, hrating⟩
    exact ⟨item.2, mapError_eq_ok.mpr hrating, rfl⟩

/-- The ratings are those of the receivables, one by one. -/
theorem rated_of_mapM {found : List MerchantReceivable} {rated : List (MerchantReceivable × ReceivableRating)}
    (h : found.mapM (rateOpenReceivable resolved asOf) = .ok rated) : rated.map (·.1) = found ∧
      ∀ item ∈ rated, rateReceivable resolved.bands (item.1.ratingInput asOf) = .ok item.2 := by
  have hall := mapM_eq_ok.mp h
  clear h
  induction hall with
  | nil => exact ⟨rfl, fun _ h => absurd h List.not_mem_nil⟩
  | cons hfirst _ ih =>
    obtain ⟨rfl, hrating⟩ := rateOpenReceivable_eq_ok.mp hfirst
    exact ⟨congrArg _ ih.1, List.forall_mem_cons.mpr ⟨hrating, ih.2⟩⟩

/-- What a rating transaction has read. -/
structure RatingTask.Reads (task : RatingTask) (db : RatingDb) : Prop where
  account : ∃ a ∈ db.accounts, a.id = task.accountId
  resolved : resolvePolicy db.policy = .ok task.resolved
  open_ : task.rated.map (·.1) = findOpenReceivables db task.accountId
  rated : ∀ item ∈ task.rated, rateReceivable task.resolved.bands (item.1.ratingInput task.asOf) = .ok item.2

theorem beginRating_eq_ok (h : beginRating db accountId asOf = .ok task) :
    task.accountId = accountId ∧ task.asOf = asOf ∧ task.Reads db := by
  obtain ⟨a, ha, h⟩ := orFail_bind_eq_ok.mp h
  obtain ⟨resolved, hresolved, h⟩ := bind_eq_ok.mp h
  obtain ⟨rated, hrated, h⟩ := bind_eq_ok.mp h
  obtain rfl := pure_eq_ok.mp h
  obtain ⟨hopen, hall⟩ := rated_of_mapM hrated
  exact ⟨rfl, rfl, ⟨a, Table.find?_eq_some.mp ha⟩, hresolved, hopen, hall⟩

/-- An account that exists can be rated, if there is a policy. -/
theorem exists_beginRating (haccount : ∃ a ∈ db.accounts, a.id = accountId)
    (hresolved : resolvePolicy db.policy = .ok resolved) (asOf : Instant) : ∃ task, beginRating db accountId asOf = .ok task := by
  obtain ⟨a, ha, rfl⟩ := haccount
  obtain ⟨rated, hrated⟩ := exists_mapM_eq_ok.mpr fun r (_ : r ∈ findOpenReceivables db a.id) =>
    have ⟨rating, hrating⟩ := exists_rateReceivable hresolved (r.ratingInput asOf)
    (⟨(r, rating), rateOpenReceivable_eq_ok.mpr ⟨rfl, hrating⟩⟩ : ∃ item, rateOpenReceivable resolved asOf r = .ok item)
  exact ⟨_, orFail_bind_eq_ok.mpr ⟨a, Table.find?_key ha, bind_eq_ok.mpr ⟨resolved, hresolved,
    bind_eq_ok.mpr ⟨rated, hrated, rfl⟩⟩⟩⟩

namespace RatingTask.Reads

variable (h : task.Reads db)

include h

theorem nodup : (task.rated.map fun item => item.1.id).Nodup := by
  have hnodup : ((findOpenReceivables db task.accountId).map (·.id)).Nodup := nodup_findOpenReceivables
  rwa [← h.open_, List.map_map] at hnodup

/-- An open receivable of the account was rated. -/
theorem exists_item (hr : r ∈ db.receivables) (haccount : r.accountId = task.accountId) (hopen : r.isOpen = true) :
    ∃ rating, (r, rating) ∈ task.rated := by
  have hmem : r ∈ task.rated.map (·.1) := h.open_ ▸ mem_findOpenReceivables.mpr ⟨hr, haccount, hopen⟩
  obtain ⟨item, hitem, rfl⟩ := List.mem_map.mp hmem
  exact ⟨item.2, hitem⟩

theorem mem_receivables (hitem : item ∈ task.rated) :
    item.1 ∈ db.receivables ∧ item.1.accountId = task.accountId ∧ item.1.isOpen = true :=
  mem_findOpenReceivables.mp (h.open_ ▸ List.mem_map_of_mem hitem)

end RatingTask.Reads

end Reads

/-! ## What every run keeps -/

/-- The rating of an account adds up from ratings in force of its receivables, and has the grade of the one it names. -/
def AccountRiskRating.AddsUp (rating : AccountRiskRating) (db : RatingDb) : Prop :=
  ∃ rows : List ReceivableRiskRating, rows.Nodup ∧
    (∀ row ∈ rows, row ∈ db.receivableRatings ∧ row.isCurrent = true ∧ row.accountId = rating.accountId) ∧
    rating.ratedReceivableCount = rows.length ∧ rating.totalExposureCents = (rows.map (·.exposureCents)).sum ∧
    rating.totalProvisionCents = (rows.map (·.provisionCents)).sum ∧
    ∀ receivableId ∈ rating.drivingReceivableId, ∃ row ∈ rows, row.receivableId = receivableId ∧ row.grade = rating.grade

structure RatingKept (db : RatingDb) : Prop where
  receivables : ∀ r ∈ db.receivables, ∃ a ∈ db.accounts, a.id = r.accountId
  rated : ∀ rating ∈ db.receivableRatings, ∃ r ∈ db.receivables, r.id = rating.receivableId ∧ r.accountId = rating.accountId
  oneReceivable : db.receivableRatings.OneCurrent
  oneAccount : db.accountRatings.OneCurrent
  projected : ∀ a ∈ db.accounts, a.riskRatingGrade = (db.accountRatings.current? a.id).map (·.grade) ∧
    a.riskRatingUpdatedAt = (db.accountRatings.current? a.id).map (·.ratedAt)
  ratedAccounts : ∀ rating ∈ db.accountRatings, ∃ a ∈ db.accounts, a.id = rating.accountId
  addsUp : ∀ rating ∈ db.accountRatings, rating.isCurrent = true → rating.AddsUp db

/-- What a transaction relies on until it commits. -/
structure RatingTask.Stands (task : RatingTask) (db : RatingDb) : Prop where
  account : ∃ a ∈ db.accounts, a.id = task.accountId
  nodup : (task.rated.map fun item => item.1.id).Nodup
  rated : ∀ item ∈ task.rated, ∃ r ∈ db.receivables, r.id = item.1.id ∧ r.accountId = task.accountId

theorem RatingTask.Reads.stands {task : RatingTask} {db : RatingDb} (h : task.Reads db) : task.Stands db :=
  ⟨h.account, h.nodup, fun item hitem =>
    have ⟨hr, haccount, _⟩ := h.mem_receivables hitem
    ⟨item.1, hr, rfl, haccount⟩⟩

section RateAccount

variable {receivables : List RatedReceivable} {bestBand : RatingBand} {contamination : Bool}

theorem rateAccount_totals : (rateAccount receivables bestBand contamination).ratedReceivableCount = receivables.length ∧
    (rateAccount receivables bestBand contamination).totalExposureCents = (receivables.map (·.rating.exposureCents)).sum ∧
    (rateAccount receivables bestBand contamination).totalProvisionCents =
      (receivables.map (·.rating.provisionCents)).sum := by
  cases receivables with
  | nil => exact ⟨rfl, rfl, rfl⟩
  | cons first rest =>
    have htotals := foldl_totals (first :: rest) (0, 0)
    simp only [zero_add] at htotals
    exact ⟨rfl, congrArg Prod.fst htotals, congrArg Prod.snd htotals⟩

theorem foldl_choice {α : Type} {f : α → α → α} (hf : ∀ a b, f a b = a ∨ f a b = b) (first : α) (rest : List α) :
    rest.foldl f first ∈ first :: rest := by
  induction rest generalizing first with
  | nil => exact List.mem_singleton_self first
  | cons a rest ih =>
    rw [List.foldl_cons]
    rcases List.mem_cons.mp (ih (f first a)) with heq | hmem
    · rw [heq]
      rcases hf first a with h | h <;> rw [h]
      · exact List.mem_cons_self
      · exact List.mem_cons_of_mem _ List.mem_cons_self
    · exact List.mem_cons_of_mem _ (List.mem_cons_of_mem _ hmem)

/-- The receivable that a rating names is one of them, and its band is that of the rating. -/
theorem rateAccount_driver {receivableId : Nat}
    (h : receivableId ∈ (rateAccount receivables bestBand contamination).drivingReceivableId) :
    ∃ item ∈ receivables, item.receivableId = receivableId ∧
      item.rating.band = (rateAccount receivables bestBand contamination).band := by
  cases receivables with
  | nil => cases h
  | cons first rest =>
    have hworst : worstReceivable first rest ∈ first :: rest := foldl_choice (fun a b => by
      unfold worseReceivable
      split_ifs <;> simp) first rest
    have hlargest : largestReceivable first rest ∈ first :: rest := foldl_choice (fun a b => by
      split_ifs <;> simp) first rest
    cases contamination with
    | true => exact ⟨_, hworst, Option.some.inj h, rfl⟩
    | false => exact ⟨_, hlargest, Option.some.inj h, rfl⟩

end RateAccount

section Writes

variable {db : RatingDb} {task : RatingTask}

theorem isVersion_receivable (accountId : Nat) (resolved : ResolvedPolicy) (asOf : Instant)
    (item : MerchantReceivable × ReceivableRating) (previous : Option ReceivableRiskRating) :
    Table.IsVersion item.1.id (newReceivableRating accountId resolved asOf item (previous.map (·.grade))) :=
  ⟨fun _ => rfl, fun _ => rfl, fun _ => rfl⟩

theorem isVersion_account (accountId : Nat) (resolved : ResolvedPolicy) (asOf : Instant) (rating : AccountRating)
    (previousGrade : Option String) :
    Table.IsVersion accountId (newAccountRating accountId resolved asOf rating previousGrade) :=
  ⟨fun _ => rfl, fun _ => rfl, fun _ => rfl⟩

/-- What is found for each item, column by column. -/
theorem map_filterMap {α β γ : Type} {f : β → Option α} {g : α → γ} {g' : β → γ} {l : List β}
    (h : ∀ b ∈ l, ∃ a, f b = some a ∧ g a = g' b) : (l.filterMap f).map g = l.map g' := by
  induction l with
  | nil => rfl
  | cons b l ih =>
    obtain ⟨a, ha, hg⟩ := h b List.mem_cons_self
    rw [List.filterMap_cons_some ha, List.map_cons, List.map_cons, hg, ih fun b hb => h b (List.mem_cons_of_mem _ hb)]

/-- **The rating of each receivable** after a transaction. -/
theorem current?_write (h : RatingKept db) (hnodup : (task.rated.map fun item => item.1.id).Nodup) :
    (∀ item ∈ task.rated, ∃ previousGrade id, (task.write db).receivableRatings.current? item.1.id =
      some (newReceivableRating task.accountId task.resolved task.asOf item previousGrade id)) ∧
    ∀ id, (∀ item ∈ task.rated, item.1.id ≠ id) →
      (task.write db).receivableRatings.current? id = db.receivableRatings.current? id := by
  obtain ⟨hnew, hkept⟩ := Table.current?_supersedeEach h.oneReceivable
    (fun item previous => isVersion_receivable task.accountId task.resolved task.asOf item previous) hnodup
  refine ⟨fun item hitem => ?_, hkept⟩
  obtain ⟨id, hid⟩ := hnew item hitem
  exact ⟨_, id, hid⟩

/-- **The rating of each account** after a transaction. -/
theorem current?_write_account (h : RatingKept db) :
    (∃ previousGrade id, (task.write db).accountRatings.current? task.accountId =
      some (newAccountRating task.accountId task.resolved task.asOf task.accountRating previousGrade id)) ∧
    ∀ accountId, accountId ≠ task.accountId →
      (task.write db).accountRatings.current? accountId = db.accountRatings.current? accountId := by
  obtain ⟨⟨id, hid⟩, hkept⟩ := Table.current?_supersede h.oneAccount
    (isVersion_account task.accountId task.resolved task.asOf task.accountRating
      ((db.accountRatings.current? task.accountId).map (·.grade)))
  exact ⟨⟨_, id, hid⟩, hkept⟩

/-- The rating that a transaction writes adds up from those that it writes. -/
theorem addsUp_new (h : RatingKept db) (hnodup : (task.rated.map fun item => item.1.id).Nodup)
    {previousGrade : Option String} {id : Nat} :
    (newAccountRating task.accountId task.resolved task.asOf task.accountRating previousGrade id).AddsUp (task.write db) := by
  have hone : (task.write db).receivableRatings.OneCurrent := h.oneReceivable.supersedeEach fun item previous =>
    isVersion_receivable task.accountId task.resolved task.asOf item previous
  have hnew := (current?_write h hnodup).1
  have hcolumn : ∀ {γ : Type} {g : ReceivableRiskRating → γ} {g' : MerchantReceivable × ReceivableRating → γ},
      (∀ item previousGrade id, g (newReceivableRating task.accountId task.resolved task.asOf item previousGrade id) = g' item) →
      ((task.rated.filterMap fun item => (task.write db).receivableRatings.current? item.1.id).map g) = task.rated.map g' := by
    intro γ g g' hg
    refine map_filterMap fun item hitem => ?_
    obtain ⟨previousGrade, id, hid⟩ := hnew item hitem
    exact ⟨_, hid, hg item previousGrade id⟩
  have hids := @hcolumn _ (·.receivableId) (fun item => item.1.id) fun _ _ _ => rfl
  have hexposures := @hcolumn _ (·.exposureCents) (fun item => item.2.exposureCents) fun _ _ _ => rfl
  have hprovisions := @hcolumn _ (·.provisionCents) (fun item => item.2.provisionCents) fun _ _ _ => rfl
  obtain ⟨hcount, hexposure, hprovision⟩ := @rateAccount_totals task.ratedReceivables
    task.resolved.bestBand task.resolved.policy.contaminationEnabled
  refine ⟨_, List.Nodup.of_map (·.receivableId) (hids ▸ hnodup), fun row hrow => ?_, ?_, ?_, ?_,
    fun receivableId hdriving => ?_⟩
  · obtain ⟨item, hitem, hrow⟩ := List.mem_filterMap.mp hrow
    obtain ⟨previousGrade, id, hid⟩ := hnew item hitem
    obtain ⟨hmem, -, hcurrent⟩ := (Table.current?_eq_some hone).mp hrow
    obtain rfl := Option.some.inj (hrow.symm.trans hid)
    exact ⟨hmem, hcurrent, rfl⟩
  · have hlength := congrArg List.length hids
    rw [List.length_map, List.length_map] at hlength
    rw [hlength]
    exact hcount.trans (List.length_map _)
  · rw [hexposures]
    exact hexposure.trans (congrArg List.sum (List.map_map ..))
  · rw [hprovisions]
    exact hprovision.trans (congrArg List.sum (List.map_map ..))
  · obtain ⟨rated, hrated, rfl, hband⟩ := rateAccount_driver hdriving
    obtain ⟨item, hitem, rfl⟩ := List.mem_map.mp hrated
    obtain ⟨previousGrade', id', hid⟩ := hnew item hitem
    exact ⟨_, List.mem_filterMap.mpr ⟨item, hitem, hid⟩, rfl, congrArg RatingBand.grade hband⟩

/-- The receivables that a transaction rates are not those of another account. -/
theorem RatingTask.Stands.ne (hstands : task.Stands db) (h : RatingKept db) {rating : ReceivableRiskRating}
    (hrating : rating ∈ db.receivableRatings) (hne : rating.accountId ≠ task.accountId)
    {item : MerchantReceivable × ReceivableRating} (hitem : item ∈ task.rated) : item.1.id ≠ rating.receivableId := by
  intro heq
  obtain ⟨r, hr, hid, haccount⟩ := h.rated rating hrating
  obtain ⟨r', hr', hid', haccount'⟩ := hstands.rated item hitem
  obtain rfl : r' = r := Table.eq_of_key_eq hr' hr (hid'.trans (heq.trans hid.symm))
  exact hne (haccount.symm.trans haccount')

/-- The rating of another account still adds up. -/
theorem RatingTask.Stands.addsUp (hstands : task.Stands db) (h : RatingKept db) {rating : AccountRiskRating}
    (hrating : rating.AddsUp db) (hne : rating.accountId ≠ task.accountId) : rating.AddsUp (task.write db) := by
  obtain ⟨rows, hnodup, hrows, hsums⟩ := hrating
  refine ⟨rows, hnodup, fun row hrow => ?_, hsums⟩
  obtain ⟨hmem, hcurrent, haccount⟩ := hrows row hrow
  have hkept := (current?_write h hstands.nodup).2 row.receivableId fun item hitem =>
    hstands.ne h hmem (haccount ▸ hne) hitem
  have hone : (task.write db).receivableRatings.OneCurrent := h.oneReceivable.supersedeEach fun item previous =>
    isVersion_receivable task.accountId task.resolved task.asOf item previous
  have hfound := hkept.trans ((Table.current?_eq_some h.oneReceivable).mpr ⟨hmem, rfl, hcurrent⟩)
  exact ⟨((Table.current?_eq_some hone).mp hfound).1, hcurrent, haccount⟩

theorem exists_account_write {accountId : Nat} (h : ∃ a ∈ db.accounts, a.id = accountId) :
    ∃ a ∈ (task.write db).accounts, a.id = accountId := by
  obtain ⟨a, ha, rfl⟩ := h
  exact Table.exists_updateWhere (f := projectGrade task.accountRating.band.grade task.asOf) (fun _ => rfl)
    (R := fun a a' => a'.id = a.id) (fun _ => rfl) (fun _ => rfl) ha

/-- **A transaction** keeps what every run keeps. -/
theorem RatingKept.write (h : RatingKept db) (hstands : task.Stands db) : RatingKept (task.write db) := by
  have hversions : ∀ (item : MerchantReceivable × ReceivableRating) (previous : Option ReceivableRiskRating),
      Table.IsVersion item.1.id (newReceivableRating task.accountId task.resolved task.asOf item (previous.map (·.grade))) :=
    isVersion_receivable task.accountId task.resolved task.asOf
  have hversion := isVersion_account task.accountId task.resolved task.asOf task.accountRating
    ((db.accountRatings.current? task.accountId).map (·.grade))
  have hone : (task.write db).accountRatings.OneCurrent := h.oneAccount.supersede hversion
  obtain ⟨⟨previousGrade, id, hnew⟩, hother⟩ := @current?_write_account db task h
  refine ⟨fun r hr => exists_account_write (h.receivables r hr), ?_, h.oneReceivable.supersedeEach hversions, hone,
    fun a ha => ?_, ?_, fun rating hrating hcurrent => ?_⟩
  · -- a row is written for a receivable of the account, or loses its mark
    refine Table.supersedeEach_keeps (P := fun t => ∀ rating ∈ t, ∃ r ∈ db.receivables,
      r.id = rating.receivableId ∧ r.accountId = rating.accountId) hversions ?_ h.rated
    intro t item previous hitem ht hmk
    obtain ⟨k, -, hmem⟩ := Table.mem_supersede (t := t) hmk
    intro rating hrating
    rcases (hmem rating).mp hrating with ⟨hrating, -⟩ | ⟨old, hold, -, -, rfl⟩ | rfl
    · exact ht rating hrating
    · exact ht old hold
    · exact hstands.rated item hitem
  · obtain ⟨old, hold, rfl⟩ :=
      (Table.mem_updateWhere (f := projectGrade task.accountRating.band.grade task.asOf) fun _ => rfl).mp ha
    by_cases hid : old.id = task.accountId
    · have hself : (task.write db).accountRatings.current?
          (projectGrade task.accountRating.band.grade task.asOf old).id = _ := (congrArg _ hid).trans hnew
      simp only [hid, decide_true, if_true, hself]
      exact ⟨rfl, rfl⟩
    · simp only [hid, decide_false, Bool.false_eq_true, if_false, hother _ hid]
      exact h.projected old hold
  · obtain ⟨k, -, hmem⟩ := Table.mem_supersede (t := db.accountRatings) hversion
    intro rating hrating
    refine exists_account_write ?_
    rcases (hmem rating).mp hrating with ⟨hrating, -⟩ | ⟨old, hold, -, -, rfl⟩ | rfl
    · exact h.ratedAccounts rating hrating
    · exact h.ratedAccounts old hold
    · exact hstands.account
  · by_cases haccount : rating.accountId = task.accountId
    · have hfound := (Table.current?_eq_some hone).mpr ⟨hrating, haccount, hcurrent⟩
      obtain rfl := Option.some.inj (hfound.symm.trans hnew)
      exact addsUp_new h hstands.nodup
    · have hfound := (Table.current?_eq_some hone).mpr ⟨hrating, rfl, hcurrent⟩
      have hold := (Table.current?_eq_some h.oneAccount).mp ((hother _ haccount).symm.trans hfound)
      exact hstands.addsUp h (h.addsUp rating hold.1 hcurrent) haccount

end Writes

/-! ## What others change -/

section Events

variable {db db' : RatingDb} {event : RatingEvent} {task : RatingTask}

/-- Accounts and receivables stay, and a receivable stays with its account. -/
structure RatingStays (db db' : RatingDb) : Prop where
  account : ∀ a ∈ db.accounts, ∃ a' ∈ db'.accounts, a'.id = a.id
  receivable : ∀ r ∈ db.receivables, ∃ r' ∈ db'.receivables, r'.id = r.id ∧ r'.accountId = r.accountId

theorem RatingTask.Stands.stays (h : task.Stands db) (hstays : RatingStays db db') : task.Stands db' := by
  refine ⟨?_, h.nodup, fun item hitem => ?_⟩
  · obtain ⟨a, ha, haccount⟩ := h.account
    obtain ⟨a', ha', hid⟩ := hstays.account a ha
    exact ⟨a', ha', hid.trans haccount⟩
  · obtain ⟨r, hr, hid, haccount⟩ := h.rated item hitem
    obtain ⟨r', hr', hid', haccount'⟩ := hstays.receivable r hr
    exact ⟨r', hr', hid'.trans hid, haccount'.trans haccount⟩

theorem stays_write : RatingStays db (task.write db) :=
  ⟨fun _ ha => exists_account_write ⟨_, ha, rfl⟩, fun r hr => ⟨r, hr, rfl, rfl⟩⟩

/-- Neither ratings nor the grades of accounts are touched by others. -/
theorem RatingKept.applied (h : RatingKept db) (hevent : event.apply db = some db') :
    RatingKept db' ∧ RatingStays db db' ∧ db'.receivableRatings = db.receivableRatings ∧
      db'.accountRatings = db.accountRatings := by
  cases event with
  | account =>
    obtain rfl := Option.some.inj hevent
    have hmem : ∀ a ∈ db.accounts, a ∈ db.accounts.create fun id => ⟨id, none, none⟩ := fun a ha =>
      Table.mem_create_of_mem (fun _ => rfl) ha
    have hstill : ∀ {id}, (∃ a ∈ db.accounts, a.id = id) → ∃ a ∈ db.accounts.create fun id => ⟨id, none, none⟩, a.id = id :=
      fun ⟨a, ha, hid⟩ => ⟨a, hmem a ha, hid⟩
    refine ⟨⟨fun r hr => hstill (h.receivables r hr), h.rated, h.oneReceivable, h.oneAccount, fun a ha => ?_,
      fun rating hrating => hstill (h.ratedAccounts rating hrating), h.addsUp⟩, ⟨fun a ha => ⟨a, hmem a ha, rfl⟩,
      fun r hr => ⟨r, hr, rfl, rfl⟩⟩, rfl, rfl⟩
    rcases (Table.mem_create fun _ => rfl).mp ha with ha | rfl
    · exact h.projected a ha
    · -- no rating is of an account that was not there
      have hnone : db.accountRatings.current? db.accounts.nextKey = none := by
        refine Table.current?_eq_none.mpr fun rating hrating haccount => ?_
        obtain ⟨a, ha, hid⟩ := h.ratedAccounts rating hrating
        exact absurd (hid.trans haccount) (Table.key_lt_nextKey ha).ne
      exact ⟨by rw [hnone]; rfl, by rw [hnone]; rfl⟩
  | charge r =>
    simp only [RatingEvent.apply] at hevent
    split at hevent
    case isFalse => cases hevent
    next haccount =>
      obtain rfl := Option.some.inj hevent
      have hmem : ∀ x ∈ db.receivables, x ∈ db.receivables.create fun id => { r with id } := fun x hx =>
        Table.mem_create_of_mem (fun _ => rfl) hx
      refine ⟨⟨fun x hx => ?_, fun rating hrating => ?_, h.oneReceivable, h.oneAccount, h.projected, h.ratedAccounts,
        h.addsUp⟩, ⟨fun a ha => ⟨a, ha, rfl⟩, fun x hx => ⟨x, hmem x hx, rfl, rfl⟩⟩, rfl, rfl⟩
      · rcases (Table.mem_create fun _ => rfl).mp hx with hx | rfl
        · exact h.receivables x hx
        · obtain ⟨a, ha⟩ := Option.isSome_iff_exists.mp haccount
          exact ⟨a, Table.find?_eq_some.mp ha⟩
      · obtain ⟨x, hx, hsame⟩ := h.rated rating hrating
        exact ⟨x, hmem x hx, hsame⟩
  | change r =>
    obtain ⟨old, hold, hevent⟩ := Option.bind_eq_some_iff.mp hevent
    split at hevent
    case isFalse => cases hevent
    next haccount =>
      obtain rfl := Option.some.inj hevent
      obtain ⟨hold, hid⟩ := Table.find?_eq_some.mp hold
      have hstays : ∀ x ∈ db.receivables, ∃ x' ∈ db.receivables.put r, x'.id = x.id ∧ x'.accountId = x.accountId := by
        intro x hx
        by_cases hkey : x.id = r.id
        · obtain rfl : x = old := Table.eq_of_key_eq hx hold (hkey.trans hid.symm)
          exact ⟨r, Table.mem_put_self hold hid.symm, hid.symm, haccount⟩
        · exact ⟨x, (Table.mem_put hold hid.symm).mpr (.inr ⟨hx, hkey⟩), rfl, rfl⟩
      refine ⟨⟨?_, fun rating hrating => ?_, h.oneReceivable, h.oneAccount, h.projected, h.ratedAccounts,
        h.addsUp⟩, ⟨fun a ha => ⟨a, ha, rfl⟩, hstays⟩, rfl, rfl⟩
      · exact Table.forall_mem_put (fun x hx _ => h.receivables x hx) (haccount ▸ h.receivables old hold)
      · obtain ⟨x, hx, hxid, hxaccount⟩ := h.rated rating hrating
        obtain ⟨x', hx', hid', haccount'⟩ := hstays x hx
        exact ⟨x', hx', hid'.trans hxid, haccount'.trans hxaccount⟩
  | policy active =>
    obtain rfl := Option.some.inj hevent
    exact ⟨⟨h.receivables, h.rated, h.oneReceivable, h.oneAccount, h.projected, h.ratedAccounts, h.addsUp⟩,
      ⟨fun a ha => ⟨a, ha, rfl⟩, fun r hr => ⟨r, hr, rfl, rfl⟩⟩, rfl, rfl⟩

end Events

/-! ## Runs -/

section Runs

variable {S S' : Sessions RatingDb RatingTask}

theorem rating_promises : ratingWorkers.Promises (fun _ => True) (fun _ _ => True) RatingKept RatingTask.Stands where
  start _ _ hstart := (beginRating_eq_ok (toOption_eq_some.mp hstart)).2.2.stands
  next _ hS hfind _ hnext := by
    obtain ⟨rfl, rfl⟩ := Prod.mk.inj (Option.some.inj hnext)
    exact ⟨hS.store.write (hS.at hfind), fun _ hp => by cases hp⟩
  stable _ hS hfind _ hnext x hx := by
    obtain ⟨rfl, rfl⟩ := Prod.mk.inj (Option.some.inj hnext)
    exact (hS.worker x (Sessions.mem_others.mp hx).1).stays stays_write
  outside _ hS _ hevent := by
    obtain ⟨hkept, hstays, -⟩ := hS.store.applied hevent
    exact ⟨hkept, fun x hx => (hS.worker x hx).stays hstays⟩

theorem ratingKept_of_reachable (h : ratingMachine.Reachable (fun _ _ => True) S) : RatingKept S.committed := by
  refine (Workers.keeps rating_promises (fun db hdb => ?_) (fun _ _ => trivial) h).store
  have hno : ∀ {x}, x ∉ db.accountRatings := fun {x} hx => Table.not_mem_empty x (hdb.accountRatings ▸ hx)
  have hnone : ∀ accountId, db.accountRatings.current? accountId = none := fun _ =>
    Table.current?_eq_none.mpr fun _ hrating => absurd hrating hno
  refine ⟨fun r hr => absurd (hdb.receivables ▸ hr) (Table.not_mem_empty r),
    fun rating hrating => absurd (hdb.receivableRatings ▸ hrating) (Table.not_mem_empty rating),
    hdb.receivableRatings ▸ Table.oneCurrent_empty, hdb.accountRatings ▸ Table.oneCurrent_empty, fun a ha => ?_,
    fun _ hrating => absurd hrating hno, fun _ hrating => absurd hrating hno⟩
  rw [hnone]
  exact hdb.accounts a ha

/-- Ratings are not lost. -/
def RatingsFollow (S S' : Sessions RatingDb RatingTask) : Prop :=
  Table.Follows S.committed.receivableRatings S'.committed.receivableRatings ∧
    Table.Follows S.committed.accountRatings S'.committed.accountRatings

theorem ratings_follow {as : List (WorkerAct (Nat × Instant) Unit RatingEvent)}
    (h : ratingMachine.Reachable (fun _ _ => True) S) (hrun : ratingMachine.Run (fun _ _ => True) S as S') :
    RatingsFollow S S' := by
  refine hrun.relates (P := fun S => ratingMachine.Reachable (fun _ _ => True) S) (fun S => ⟨.refl _, .refl _⟩)
    (fun h h' => ⟨h.1.trans h'.1, h.2.trans h'.2⟩) (fun _ _ _ hok hstep h => h.step hok hstep) ?_ h
  intro S a S' _ hstep hreach
  cases Workers.step_cases hstep with
  | started => exact ⟨.refl _, .refl _⟩
  | moved _ hnext _ => cases (Prod.mk.inj (Option.some.inj hnext)).2
  | done _ hnext =>
    obtain ⟨rfl, -⟩ := Prod.mk.inj (Option.some.inj hnext)
    exact ⟨Table.follows_supersedeEach (isVersion_receivable _ _ _), Table.follows_supersede (isVersion_account _ _ _ _ _)⟩
  | died => exact ⟨.refl _, .refl _⟩
  | changed hevent =>
    obtain ⟨-, -, hreceivable, haccount⟩ := (ratingKept_of_reachable hreach).applied hevent
    exact ⟨hreceivable ▸ .refl _, haccount ▸ .refl _⟩

/-- **Ratings in force**: in every run a receivable has at most one, and so has an account, which shows its grade and adds
up from those of its receivables; whatever was rated stays on record, and is never in force again. -/
theorem ratings_in_force (h : ratingMachine.Reachable (fun _ _ => True) S) :
    (∀ a ∈ S.committed.receivableRatings, ∀ b ∈ S.committed.receivableRatings, a.isCurrent = true → b.isCurrent = true →
      a.receivableId = b.receivableId → a = b) ∧
    (∀ a ∈ S.committed.accountRatings, ∀ b ∈ S.committed.accountRatings, a.isCurrent = true → b.isCurrent = true →
      a.accountId = b.accountId → a = b) ∧
    (∀ a ∈ S.committed.accounts, a.riskRatingGrade = (S.committed.accountRatings.current? a.id).map (·.grade) ∧
      a.riskRatingUpdatedAt = (S.committed.accountRatings.current? a.id).map (·.ratedAt)) ∧
    (∀ rating ∈ S.committed.accountRatings, rating.isCurrent = true → rating.AddsUp S.committed) ∧
    ∀ as S', ratingMachine.Run (fun _ _ => True) S as S' → RatingsFollow S S' :=
  have hkept := ratingKept_of_reachable h
  ⟨hkept.oneReceivable, hkept.oneAccount, hkept.projected, hkept.addsUp, fun _ _ => ratings_follow h⟩

end Runs

/-! ## A payment while an account is rated -/

def asfiPolicy : RatingPolicy := ⟨1, "asfi_portfolio_rating", "v1", true, asfiScale⟩

/-- Two accounts without a rating. -/
def twoAccounts : Sessions RatingDb RatingTask where
  committed :=
    { policy := some asfiPolicy
      accounts := (Table.empty.create fun id => ⟨id, none, none⟩).create fun id => ⟨id, none, none⟩
      receivables := Table.empty
      receivableRatings := Table.empty
      accountRatings := Table.empty }
  active := []

/-- A charge of 100.00 to an account. -/
def smallReceivable (id accountId : Nat) (dueDate : Day) (status : ReceivableStatus) : MerchantReceivable where
  id
  accountId
  invoiceId := none
  sourceType := "MDR"
  sourceId := none
  productId := none
  amountOriginal := 10000
  amountOpen := 10000
  currency := "BOB"
  dueDate
  status

/-- A charge is paid between what a rating reads and what it commits, and the account is rated again. -/
def paidWhileRated : List (WorkerAct (Nat × Instant) Unit RatingEvent) :=
  [.outside (.charge (smallReceivable 0 1 20000 .pending)), .start 1 (1, 20075 * 86400000),
    .outside (.change (smallReceivable 1 1 20000 .paid)), .go 1 (), .start 2 (1, 20076 * 86400000), .go 2 ()]

theorem twoAccounts_init : ratingMachine.init twoAccounts :=
  ⟨⟨rfl, rfl, rfl, by decide⟩, rfl⟩

/-- The account has no debt, and its charge is still rated. -/
theorem ratings_in_force_paid :
    let db := (ratingMachine.after twoAccounts paidWhileRated).committed
    db.accounts.rows.map (·.riskRatingGrade) = [some "A", none] ∧
      db.receivableRatings.currents.map (fun row => (row.receivableId, row.grade)) = [(1, "D")] ∧
      ∀ rating ∈ db.accountRatings, rating.isCurrent = true → rating.AddsUp db := by
  refine ⟨by decide +kernel, by decide +kernel, ?_⟩
  exact (ratings_in_force (ratingMachine.reachable_after twoAccounts_init paidWhileRated)).2.2.2.1

end AtlasErp
