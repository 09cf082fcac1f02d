import AtlasErp.Fiscal.Montos
import AtlasErp.Lib.Grouping

/-! # Journal lines

A line is a debit or a credit of an account, with dimensions, in the currency of the document and in the local one.

- `DoubleEntry.validate`: the double entry, on amounts as they arrive;
- `JournalLine`: a stored line, with the checks of its columns;
- `localCurrencyAmountOf`, `recordLine`: how a line is stored;
- `reversalLine`: the line that undoes a stored one;
- `recordLine_reversalLine`: it is stored with its sides swapped, and with nothing else changed;
- `Mirrors.cancel`: such lines cancel under every account and its dimensions. -/

namespace AtlasErp

open Lib

/-! ## Amounts as they arrive -/

/-- `CENT_AMOUNT`: digits, and one or two decimals if any. -/
def isCentAmount (text : Text) : Bool :=
  match text.takeWhile Char.isDigit, text.dropWhile Char.isDigit with
  | [], _ => false
  | _ :: _, [] => true
  | _ :: _, c :: decimals => c = '.' ∧ Decimal.AllDigits decimals ∧ 1 ≤ decimals.length ∧ decimals.length ≤ 2

example : isCentAmount "10.5".toList = true ∧ isCentAmount "10.555".toList = false ∧ isCentAmount "-1".toList = false := by
  decide

/-- A finite `number`, as it is written. -/
structure AmountNumber where
  /-- `String(value)`. -/
  plain : Text
  /-- `value.toFixed(2)`. -/
  fixed : Text
  /-- `Math.abs(value) <= Number.MAX_SAFE_INTEGER`. -/
  isSafe : Bool
  /-- A number of at most two decimals is zero in both or in neither. -/
  zero : isCentAmount plain = true → (toMinorUnits plain 2 = .ok 0 ↔ toMinorUnits fixed 2 = .ok 0)

/-- `number | string`. -/
inductive JournalAmount where
  | number (value : AmountNumber)
  | text (value : Text)

/-- `String(value)`. -/
def JournalAmount.plain : JournalAmount → Text
  | .number value => value.plain
  | .text value => value

/-- `toMinorUnits(value)`. -/
def JournalAmount.minorUnits : JournalAmount → Except MontosError Int
  | .number value => toMinorUnits value.fixed 2
  | .text value => toMinorUnits value 2

/-- A decimal column, as the database hands it over. -/
def JournalAmount.column (minor : Int) : JournalAmount := .text (minorText minor 2)

/-! ## The double entry -/

namespace DoubleEntry

/-- `numeric(18,2)`. -/
def MAX_LINE_CENTS : Int := 999999999999999999

def cents (value : JournalAmount) : Option Int :=
  match value with
  | .number number => if number.isSafe then read number.plain else none
  | .text text => read text
where
  read (text : Text) : Option Int :=
    if isCentAmount text then
      match toMinorUnits text 2 with
      | .ok amount => if amount ≤ MAX_LINE_CENTS then some amount else none
      | .error _ => none
    else none

/-- The amounts of a line that is a debit or a credit, and not both. -/
def lineCents (line : JournalAmount × JournalAmount) : Option (Int × Int) := do
  let debit ← cents line.1
  let credit ← cents line.2
  if debit = 0 ∧ credit = 0 ∨ 0 < debit ∧ 0 < credit then none else some (debit, credit)

def validate (lines : List (JournalAmount × JournalAmount)) : Except HttpError Unit := do
  failIf (lines.length < 2)
    ⟨.badRequest, some "JOURNAL_TOO_FEW_LINES", "Un asiento necesita al menos dos líneas (partida doble)."⟩
  let amounts ← lines.zipIdx.mapM fun line => orFail (lineCents line.1) ⟨.badRequest, some "INVALID_JOURNAL_LINE",
    "La línea " ++ toString (line.2 + 1) ++ " debe tener débito o crédito, pero no ambos."⟩
  failIf ((amounts.map (·.1)).sum ≠ (amounts.map (·.2)).sum)
    ⟨.badRequest, some "UNBALANCED_JOURNAL", "El asiento no cuadra: total débito debe ser igual a total crédito."⟩

end DoubleEntry

/-! ## Stored lines -/

/-- The checks on the columns of a line: the range of `numeric(18,2)`, and one side only. -/
structure LineCheck (debit credit amountLc : Int) : Prop where
  oneSided : 0 < debit ∧ credit = 0 ∨ 0 < credit ∧ debit = 0
  fits : debit ≤ NUMERIC_18_2_MAX_MINOR ∧ credit ≤ NUMERIC_18_2_MAX_MINOR ∧ amountLc ≤ NUMERIC_18_2_MAX_MINOR ∧
    -amountLc ≤ NUMERIC_18_2_MAX_MINOR

instance (debit credit amountLc : Int) : Decidable (LineCheck debit credit amountLc) :=
  decidable_of_iff (_ ∧ _) ⟨fun h => ⟨h.1, h.2⟩, fun h => ⟨h.oneSided, h.fits⟩⟩

/-- A row of `journal_entry_line`: amounts in minor units. -/
structure JournalLine where
  lineNo : Nat
  glAccountId : Nat
  debit : Int
  credit : Int
  currencyCode : Text
  /-- The amount in local currency, without a side. -/
  amountLc : Int
  partnerId : Option Nat
  costCenterId : Option Nat
  profitCenterId : Option Nat
  taxCodeId : Option Nat
  referenceType : Option Text
  referenceId : Option Nat
  description : Option Text
  check : LineCheck debit credit amountLc
  deriving DecidableEq

/-- A line of a draft: amounts may be exact texts when they come from inside. -/
structure DraftJournalLineInput where
  glAccountId : Nat
  debit : JournalAmount
  credit : JournalAmount
  currencyCode : Text
  amountLc : Option JournalAmount
  partnerId : Option Nat
  costCenterId : Option Nat
  profitCenterId : Option Nat
  taxCodeId : Option Nat
  referenceType : Option Text
  referenceId : Option Nat
  description : Option Text

/-- `toMinorUnits` of an amount that may be missing. -/
def minorUnitsOf : Option JournalAmount → Except MontosError Int
  | none => .ok 0
  | some amount => amount.minorUnits

/-- The amount informed in local currency, or the larger of debit and credit; zero is not informed. -/
def localCurrencyAmountOf (line : DraftJournalLineInput) : Except MontosError Int := do
  let informed ← minorUnitsOf line.amountLc
  if informed ≠ 0 then return informed
  else
    let debit ← line.debit.minorUnits
    let credit ← line.credit.minorUnits
    toMinorUnits (if debit ≥ credit then line.debit else line.credit).plain 2

/-- What the recorder writes of a line: an amount that cannot be read, and a check of the table, end the request. -/
def recordLine (index : Nat) (line : DraftJournalLineInput) : Except HttpError JournalLine := do
  let debit ← line.debit.minorUnits.mapError fun _ => ⟨.internalServerError, none, "InvalidDecimalAmountError"⟩
  let credit ← line.credit.minorUnits.mapError fun _ => ⟨.internalServerError, none, "InvalidDecimalAmountError"⟩
  let amountLc ← (localCurrencyAmountOf line).mapError fun _ =>
    ⟨.internalServerError, none, "InvalidDecimalAmountError"⟩
  if check : LineCheck debit credit amountLc then
    return ⟨index + 1, line.glAccountId, debit, credit, line.currencyCode, amountLc, line.partnerId, line.costCenterId,
      line.profitCenterId, line.taxCodeId, line.referenceType, line.referenceId, line.description, check⟩
  else .error ⟨.internalServerError, none, "journal_entry_line_check"⟩

/-- The amounts of a stored line, as the posting hands them to the validator. -/
def JournalLine.amounts (line : JournalLine) : JournalAmount × JournalAmount :=
  (.column line.debit, .column line.credit)

/-- The line that undoes a stored one, for the draft of a reversal. -/
def reversalLine (originalId : Nat) (reason : Text) (line : JournalLine) : DraftJournalLineInput where
  glAccountId := line.glAccountId
  debit := .column line.credit
  credit := .column line.debit
  currencyCode := line.currencyCode
  amountLc := some (.column line.amountLc)
  partnerId := line.partnerId
  costCenterId := line.costCenterId
  profitCenterId := line.profitCenterId
  taxCodeId := line.taxCodeId
  referenceType := some "REVERSAL".toList
  referenceId := some originalId
  description := some ("Reverso: ".toList ++ reason)

/-! ## Amounts of stored lines -/

section Columns

/-- A column that is not negative is read as what it holds; a negative one is not an amount of cents. -/
theorem isCentAmount_minorText (minor : Int) : isCentAmount (minorText minor 2) = decide (0 ≤ minor) := by
  obtain ⟨entero, fraccion, htext, hne, hlength, hentero, hfraccion, -⟩ := @minorText_eq minor 2 (by decide)
  obtain ⟨c, resto, rfl⟩ := List.exists_cons_of_ne_nil hne
  rw [htext]
  by_cases hnegative : minor < 0
  · rw [if_pos hnegative, decide_eq_false (by omega)]
    rfl
  · rw [if_neg hnegative, List.nil_append, decide_eq_true (by omega)]
    unfold isCentAmount
    rw [takeWhile_isDigit hentero, dropWhile_isDigit hentero]
    simp [hfraccion, hlength]

theorem minorUnits_column (minor : Int) : (JournalAmount.column minor).minorUnits = .ok minor :=
  toMinorUnits_minorText minor 2

theorem cents_column (minor : Int) : DoubleEntry.cents (.column minor) =
    if 0 ≤ minor ∧ minor ≤ DoubleEntry.MAX_LINE_CENTS then some minor else none := by
  show DoubleEntry.cents.read _ = _
  unfold DoubleEntry.cents.read
  rw [isCentAmount_minorText, toMinorUnits_minorText minor 2]
  by_cases h : 0 ≤ minor <;> simp [h]

/-- An amount that passed the validator is zero where its text is. -/
theorem zero_of_cents {value : JournalAmount} {amount : Int} (h : DoubleEntry.cents value = some amount) :
    toMinorUnits value.plain 2 = .ok amount ∧ (amount = 0 ↔ value.minorUnits = .ok 0) := by
  have hread : ∀ text, DoubleEntry.cents.read text = some amount →
      isCentAmount text = true ∧ toMinorUnits text 2 = .ok amount := by
    intro text h
    unfold DoubleEntry.cents.read at h
    split at h
    · rename_i hcent
      split at h
      · split at h
        · obtain rfl := Option.some.inj h
          exact ⟨hcent, ‹_›⟩
        · cases h
      · cases h
    · cases h
  cases value with
  | text value =>
    obtain ⟨-, hvalue⟩ := hread value h
    exact ⟨hvalue, by simp [JournalAmount.minorUnits, hvalue]⟩
  | number value =>
    simp only [DoubleEntry.cents] at h
    split at h
    · obtain ⟨hcent, hvalue⟩ := hread value.plain h
      refine ⟨hvalue, ?_⟩
      rw [JournalAmount.minorUnits, ← value.zero hcent, hvalue, Except.ok.injEq]
    · cases h

end Columns

/-! ## What is accepted -/

section Accepted

/-- Both sides of an accepted line are amounts, and not both are zero. -/
theorem lineCents_eq_some {line : JournalAmount × JournalAmount} {amounts : Int × Int}
    (h : DoubleEntry.lineCents line = some amounts) :
    DoubleEntry.cents line.1 = some amounts.1 ∧ DoubleEntry.cents line.2 = some amounts.2 ∧
      ¬ (amounts.1 = 0 ∧ amounts.2 = 0) := by
  obtain ⟨debit, hdebit, h⟩ := Option.bind_eq_some_iff.mp h
  obtain ⟨credit, hcredit, h⟩ := Option.bind_eq_some_iff.mp h
  split at h
  · cases h
  · rename_i hsides
    obtain rfl := Option.some.inj h
    exact ⟨hdebit, hcredit, fun hzero => hsides (.inl hzero)⟩

/-- An entry that is accepted has two lines at least, each of which is. -/
theorem validate_eq_ok {lines : List (JournalAmount × JournalAmount)} (h : DoubleEntry.validate lines = .ok ()) :
    2 ≤ lines.length ∧ ∃ amounts, List.Forall₂ (fun line amount => DoubleEntry.lineCents line = some amount) lines amounts ∧
      (amounts.map (·.1)).sum = (amounts.map (·.2)).sum := by
  obtain ⟨hlength, h⟩ := failIf_bind_eq_ok.mp h
  obtain ⟨amounts, hamounts, h⟩ := bind_eq_ok.mp h
  refine ⟨by omega, amounts, ?_, by simpa [failIf, ite_error_eq_ok] using h⟩
  have hall := (mapM_eq_ok.mp hamounts).imp fun _ _ hline => orFail_eq_ok.mp hline
  have hmap := List.forall₂_map_left_iff (f := Prod.fst) (R := fun line amount => DoubleEntry.lineCents line = some amount)
    |>.mpr hall
  rwa [List.zipIdx_map_fst] at hmap

/-- A stored line that is accepted is read as what it holds. -/
theorem lineCents_amounts {line : JournalLine} {amounts : Int × Int}
    (h : DoubleEntry.lineCents line.amounts = some amounts) : amounts = (line.debit, line.credit) := by
  obtain ⟨hdebit, hcredit, -⟩ := lineCents_eq_some h
  rw [JournalLine.amounts, cents_column] at hdebit hcredit
  split at hdebit <;> split at hcredit <;> simp_all

/-- **Stored lines that are accepted** balance. -/
theorem balanced_of_validate {lines : List JournalLine}
    (h : DoubleEntry.validate (lines.map JournalLine.amounts) = .ok ()) :
    2 ≤ lines.length ∧ (lines.map (·.debit)).sum = (lines.map (·.credit)).sum := by
  obtain ⟨hlength, amounts, hall, hsum⟩ := validate_eq_ok h
  have hamounts : amounts = lines.map fun line => (line.debit, line.credit) := by
    have hall' := List.forall₂_map_left_iff.mp hall
    clear hall hsum hlength h
    induction hall' with
    | nil => rfl
    | cons hline _ ih => rw [List.map_cons, lineCents_amounts hline, ih]
  subst hamounts
  rw [List.length_map] at hlength
  refine ⟨hlength, ?_⟩
  simpa only [List.map_map, Function.comp_def] using hsum

end Accepted

/-! ## What is recorded -/

section Recorded

variable {index : Nat} {line : DraftJournalLineInput} {row : JournalLine}

/-- What a recorded line holds. -/
theorem recordLine_eq_ok (h : recordLine index line = .ok row) :
    line.debit.minorUnits = .ok row.debit ∧ line.credit.minorUnits = .ok row.credit ∧
      localCurrencyAmountOf line = .ok row.amountLc ∧ row.glAccountId = line.glAccountId ∧
      row.currencyCode = line.currencyCode ∧ row.partnerId = line.partnerId ∧ row.costCenterId = line.costCenterId ∧
      row.profitCenterId = line.profitCenterId ∧ row.taxCodeId = line.taxCodeId := by
  obtain ⟨debit, hdebit, h⟩ := bind_eq_ok.mp h
  obtain ⟨credit, hcredit, h⟩ := bind_eq_ok.mp h
  obtain ⟨amountLc, hamountLc, h⟩ := bind_eq_ok.mp h
  split at h
  · obtain rfl := pure_eq_ok.mp h
    exact ⟨mapError_eq_ok.mp hdebit, mapError_eq_ok.mp hcredit, mapError_eq_ok.mp hamountLc, rfl, rfl, rfl, rfl, rfl, rfl⟩
  · cases h

/-- A line that passed the validator is recorded with an amount in local currency. -/
theorem recordLine_amountLc_ne_zero {amounts : Int × Int}
    (hcents : DoubleEntry.lineCents (line.debit, line.credit) = some amounts) (h : recordLine index line = .ok row) :
    row.amountLc ≠ 0 := by
  obtain ⟨hdebit, hcredit, hlocal, -⟩ := recordLine_eq_ok h
  obtain ⟨hdebit', hcredit', -⟩ := lineCents_eq_some hcents
  obtain ⟨hplain, hzero⟩ := zero_of_cents hdebit'
  obtain ⟨hplain', hzero'⟩ := zero_of_cents hcredit'
  rw [hdebit, Except.ok.injEq] at hzero
  rw [hcredit, Except.ok.injEq] at hzero'
  obtain ⟨informed, -, hlocal⟩ := bind_eq_ok.mp hlocal
  split at hlocal
  · obtain rfl := pure_eq_ok.mp hlocal
    assumption
  · rw [hdebit, hcredit] at hlocal
    have hside := row.check.oneSided
    -- the larger side is the one that is not zero
    by_cases hlarger : row.debit ≥ row.credit
    · have hamount : (.ok amounts.1 : Except MontosError Int) = .ok row.amountLc := by
        rw [← hplain]
        simpa [hlarger] using hlocal
      rw [← Except.ok.inj hamount, ne_eq, hzero]
      omega
    · have hamount : (.ok amounts.2 : Except MontosError Int) = .ok row.amountLc := by
        rw [← hplain']
        simpa [hlarger] using hlocal
      rw [← Except.ok.inj hamount, ne_eq, hzero']
      omega

theorem amountLc_of_recorded {inputs : List DraftJournalLineInput} {rows : List JournalLine} {amounts : List (Int × Int)}
    (hrecorded : List.Forall₂ (fun line row => ∃ index, recordLine index line = .ok row) inputs rows)
    (hvalid : List.Forall₂ (fun line amount => DoubleEntry.lineCents (line.debit, line.credit) = some amount)
      inputs amounts) : ∀ row ∈ rows, row.amountLc ≠ 0 := by
  induction hrecorded generalizing amounts with
  | nil => exact fun row hmem => absurd hmem List.not_mem_nil
  | cons hrow _ ih =>
    cases hvalid with
    | cons hcents hrest =>
      obtain ⟨index, hrow⟩ := hrow
      intro row hmem
      rcases List.mem_cons.mp hmem with rfl | hmem
      · exact recordLine_amountLc_ne_zero hcents hrow
      · exact ih hrest row hmem

end Recorded

/-! ## Balances -/

/-- What a balance is kept of: an account and its dimensions. -/
structure AccountKey where
  glAccountId : Nat
  partnerId : Option Nat
  costCenterId : Option Nat
  profitCenterId : Option Nat
  taxCodeId : Option Nat
  deriving DecidableEq

def JournalLine.key (line : JournalLine) : AccountKey :=
  ⟨line.glAccountId, line.partnerId, line.costCenterId, line.profitCenterId, line.taxCodeId⟩

/-- The amount in local currency, with the side of the line. -/
def JournalLine.signedLc (line : JournalLine) : Int := if 0 < line.debit then line.amountLc else -line.amountLc

/-- Debit minus credit under a key. -/
def balance (k : AccountKey) (lines : List JournalLine) : Int :=
  ((lines.filter (·.key = k)).map fun line => line.debit - line.credit).sum

/-- The same in local currency. -/
def localBalance (k : AccountKey) (lines : List JournalLine) : Int :=
  ((lines.filter (·.key = k)).map JournalLine.signedLc).sum

section Reversal

/-- A line with its sides swapped, and nothing else changed. -/
structure Mirrors (original reversal : JournalLine) : Prop where
  key : reversal.key = original.key
  currencyCode : reversal.currencyCode = original.currencyCode
  debit : reversal.debit = original.credit
  credit : reversal.credit = original.debit
  amountLc : reversal.amountLc = original.amountLc

/-- **The reversal of a line**, as it is recorded. -/
theorem recordLine_reversalLine {originalId index : Nat} {reason : Text} {line row : JournalLine}
    (hlocal : line.amountLc ≠ 0) (h : recordLine index (reversalLine originalId reason line) = .ok row) :
    Mirrors line row := by
  obtain ⟨hdebit, hcredit, hamountLc, haccount, hcurrency, hpartner, hcost, hprofit, htax⟩ := recordLine_eq_ok h
  have hlc : localCurrencyAmountOf (reversalLine originalId reason line) = .ok line.amountLc := by
    simp only [localCurrencyAmountOf, reversalLine, minorUnitsOf, minorUnits_column]
    exact if_pos hlocal
  refine ⟨?_, hcurrency, ?_, ?_, ?_⟩
  · simp only [JournalLine.key, haccount, hpartner, hcost, hprofit, htax]
    rfl
  · exact (Except.ok.inj ((minorUnits_column line.credit).symm.trans hdebit)).symm
  · exact (Except.ok.inj ((minorUnits_column line.debit).symm.trans hcredit)).symm
  · exact (Except.ok.inj (hlc.symm.trans hamountLc)).symm

/-- Lines and their mirrors add up to nothing under every key, in both currencies. -/
theorem Mirrors.cancel {lines mirrored : List JournalLine} (h : List.Forall₂ Mirrors lines mirrored) (k : AccountKey) :
    balance k (lines ++ mirrored) = 0 ∧ localBalance k (lines ++ mirrored) = 0 := by
  refine ⟨sum_filter_cancel (h.imp fun original reversal hmirror => ⟨hmirror.key, ?_⟩) k,
    sum_filter_cancel (h.imp fun original reversal hmirror => ⟨hmirror.key, ?_⟩) k⟩
  · rw [hmirror.debit, hmirror.credit, neg_sub]
  · have hside := original.check.oneSided
    rw [JournalLine.signedLc, JournalLine.signedLc, hmirror.debit, hmirror.amountLc]
    split <;> split <;> omega

end Reversal

end AtlasErp
