import AtlasErp.Common.Basics
import AtlasErp.Lib.Decimal
import AtlasErp.Lib.ReadCommitted
import AtlasErp.Lib.Table
import Mathlib.Data.List.Infix
import Mathlib.Data.List.TakeWhile

/-! # Numbers of documents

`nextDocumentNumber` takes a lock on the series, reads the greatest number as a text and writes the
next one, in the transaction that inserts the document.  Texts are lists of characters.

- `nextDocumentNumber_eq`: while the numbers of a series have all the digits of the padding, and no
  more, the next number is one more than the greatest;
- `numbering_of_reachable`: then no number repeats, under any interleaving;
- `numbering_counterexample`: after `10^padding` emissions the same number is handed out again. -/

namespace AtlasErp

open Lib Decimal

/-- Where a date comes from: a `Date`, or a text that should begin with the year. -/
inductive DocumentDate where
  | instant (ms : Instant)
  | text (value : Text)
  deriving DecidableEq

/-- What a series is asked for. -/
structure DocumentNumberRequest where
  /-- The prefix of the series, without year and number. -/
  seriesPrefix : Text
  table : Text
  column : Text
  date : DocumentDate
  /-- The column and the value that tell the series apart from the others of the table. -/
  scope : Option (Text × Text)
  padding : Option Nat
  deriving DecidableEq

/-- A number in a column of a table, with the scope of its row. -/
structure IssuedNumber where
  table : Text
  column : Text
  scope : Option (Text × Text)
  number : Text
  deriving DecidableEq

/-! ## The next number -/

section Next

/-- The year of a day counted from 1970-01-01, in the proleptic Gregorian calendar. -/
def civilYear (day : Day) : Int :=
  let z := day + 719468
  let era := z / 146097
  let doe := z - era * 146097
  let yoe := (doe - doe / 1460 + doe / 36524 - doe / 146096) / 365
  let doy := doe - (365 * yoe + yoe / 4 - yoe / 100)
  let mp := (5 * doy + 2) / 153
  yoe + era * 400 + (if mp < 10 then 0 else 1)

/-- The year of the series: `getUTCFullYear()`, or the first four digits of a text. -/
def serieYear (date : DocumentDate) (now : Instant) : Text :=
  match date with
  | .instant ms => decimalText (civilYear (ms / 86400000))
  | .text value =>
    let year := value.take 4
    if year.length = 4 ∧ AllDigits year then year else decimalText (civilYear (now / 86400000))

/-- `LIKE`: `%` is any text, `_` any character, and a backslash escapes. -/
def like : Text → Text → Bool
  | [], s => s.isEmpty
  | '%' :: p, s => s.tails.any (like p)
  | '_' :: p, s =>
    match s with
    | [] => false
    | _ :: s => like p s
  | '\\' :: c :: p, s =>
    match s with
    | [] => false
    | d :: s => c = d && like p s
  | c :: p, s =>
    match s with
    | [] => false
    | d :: s => c = d && like p s

/-- The double nearest to a natural number; `none` when it is infinite. -/
def nearestDouble (n : Nat) : Option Nat :=
  if n ≤ 2 ^ 53 then some n
  else
    let ulp := 2 ^ (Nat.log2 n - 52)
    let quotient := n / ulp
    let remainder := n % ulp
    let rounded := if ulp < 2 * remainder ∨ (2 * remainder = ulp ∧ quotient % 2 = 1) then quotient + 1 else quotient
    if rounded * ulp < 2 ^ 1024 then some (rounded * ulp) else none

/-- The nearest double of an integer. -/
def nearestNumber (n : Int) : Option Int :=
  (nearestDouble n.natAbs).map fun m => if n < 0 then -(m : Int) else m

/-- `Number.parseInt(text, 10)`; `none` is `NaN` or infinite. -/
def parseInt (text : Text) : Option Int :=
  let digits (text : Text) : Option Nat :=
    match text.takeWhile Char.isDigit with
    | [] => none
    | ds => some (value ds)
  match text.dropWhile Char.isWhitespace with
  | '-' :: rest => (digits rest).bind fun n => nearestNumber (-n)
  | '+' :: rest => (digits rest).bind fun n => nearestNumber n
  | rest => (digits rest).bind fun n => nearestNumber n

variable (now : Instant) (r : DocumentNumberRequest)

namespace DocumentNumberRequest

/-- The prefix of a number, with the year. -/
def prefijo : Text := r.seriesPrefix ++ '-' :: serieYear r.date now ++ ['-']

/-- The digits of a number: six unless the request says otherwise. -/
def digits : Nat := r.padding.getD 6

/-- The key of the advisory lock: one for each series. -/
def lockKey : Text :=
  let scopeKey := match r.scope with
    | none => "global".toList
    | some (column, value) => column ++ ':' :: value
  r.table ++ '.' :: r.column ++ ':' :: scopeKey ++ ':' :: r.prefijo now

/-- The rows of the query: the column is `LIKE` the prefix, in the scope if there is one. -/
def matched (row : IssuedNumber) : Bool :=
  row.table = r.table ∧ row.column = r.column ∧ (r.scope = none ∨ row.scope = r.scope) ∧
    like (r.prefijo now ++ ['%']) row.number

/-- `SELECT MAX(column)`: the greatest number as a text. -/
def ultimo (rows : List IssuedNumber) : Option Text := ((rows.filter (r.matched now)).map (·.number)).max?

end DocumentNumberRequest

/-- `siguiente`: one more than the number read, or 1 when there is none to read. -/
def siguiente (ultimo : Option Text) : Int :=
  match ultimo with
  | none => 1
  | some ultimo =>
    match parseInt (ultimo.drop (r.prefijo now).length) with
    | none => 1
    | some correlativo => (nearestNumber (correlativo + 1)).getD 1

/-- The next number of a series, on the rows the transaction sees. -/
def nextDocumentNumber (rows : List IssuedNumber) : Text :=
  r.prefijo now ++ List.leftpad r.digits '0' (decimalText (siguiente now r (r.ultimo now rows)))

end Next

/-! ## The series -/

section Series

variable (now : Instant) (r : DocumentNumberRequest)

namespace DocumentNumberRequest

/-- What follows the prefix in a number. -/
def tail (row : IssuedNumber) : Text := row.number.drop (r.prefijo now).length

/-- A number of the series: the prefix followed by digits, in its table, column and scope. -/
def inSeries (row : IssuedNumber) : Bool :=
  row.table = r.table ∧ row.column = r.column ∧ row.scope = r.scope ∧
    r.prefijo now <+: row.number ∧ AllDigits (r.tail now row) ∧ r.tail now row ≠ []

/-- The sequence number of a row. -/
def sequence (row : IssuedNumber) : Nat := value (r.tail now row)

/-- The greatest sequence number of the series, 0 when it has none. -/
def lastSequence (rows : List IssuedNumber) : Nat :=
  ((rows.filter (r.inSeries now)).map (r.sequence now)).foldr max 0

/-- The query selects the numbers of the series, which all have one length and are exact doubles. -/
def Regular (rows : List IssuedNumber) : Prop :=
  (∀ row ∈ rows, r.matched now row = r.inSeries now row) ∧
    (∀ a ∈ rows, ∀ b ∈ rows, r.inSeries now a = true → r.inSeries now b = true →
      a.number.length = b.number.length) ∧
    ∀ row ∈ rows, r.inSeries now row = true → r.sequence now row < 2 ^ 53

instance (rows : List IssuedNumber) : Decidable (r.Regular now rows) := inferInstanceAs (Decidable (_ ∧ _))

/-- The row of a number of the series. -/
def row (n : Nat) : IssuedNumber := ⟨r.table, r.column, r.scope, r.prefijo now ++ pad r.digits n⟩

variable {now r}

theorem number_eq {row : IssuedNumber} (h : r.inSeries now row = true) :
    row.number = r.prefijo now ++ r.tail now row := by
  obtain ⟨-, -, -, ⟨rest, hrest⟩, -, -⟩ := of_decide_eq_true h
  rw [tail, ← hrest, List.drop_left]

@[simp] theorem tail_row (n : Nat) : r.tail now (r.row now n) = pad r.digits n := List.drop_left

@[simp] theorem inSeries_row (n : Nat) : r.inSeries now (r.row now n) = true := by
  refine decide_eq_true ⟨rfl, rfl, rfl, List.prefix_append _ _, ?_, ?_⟩
  · rw [tail_row]
    exact allDigits_pad _ _
  · rw [tail_row]
    exact pad_ne_nil _ _

@[simp] theorem sequence_row (n : Nat) : r.sequence now (r.row now n) = n := by
  rw [sequence, tail_row, value_pad]

theorem sequence_le {rows : List IssuedNumber} {row : IssuedNumber} (hrow : row ∈ rows)
    (h : r.inSeries now row = true) : r.sequence now row ≤ r.lastSequence now rows :=
  Table.le_foldr_max _ _ (List.mem_map_of_mem (List.mem_filter.mpr ⟨hrow, h⟩))

/-- The last sequence number is reached, or the series is empty. -/
theorem lastSequence_eq {rows : List IssuedNumber} {row : IssuedNumber} (hrow : row ∈ rows)
    (h : r.inSeries now row = true)
    (hmax : ∀ x ∈ rows, r.inSeries now x = true → r.sequence now x ≤ r.sequence now row) :
    r.lastSequence now rows = r.sequence now row := by
  refine le_antisymm (Table.foldr_max_le fun n hn => ?_) (sequence_le hrow h)
  obtain ⟨x, hx, rfl⟩ := List.mem_map.mp hn
  exact hmax x (List.mem_filter.mp hx).1 (List.mem_filter.mp hx).2

theorem lastSequence_eq_zero {rows : List IssuedNumber} (h : ∀ row ∈ rows, r.inSeries now row = false) :
    r.lastSequence now rows = 0 := by
  have hnone : rows.filter (r.inSeries now) = [] :=
    List.filter_eq_nil_iff.mpr fun row hrow => by simp [h row hrow]
  simp [lastSequence, hnone]

/-- A row belongs to one series: its number says which. -/
theorem lockKey_eq {now' : Instant} {r' : DocumentNumberRequest} {row : IssuedNumber}
    (h : r.inSeries now row = true) (h' : r'.inSeries now' row = true) :
    r.lockKey now = r'.lockKey now' := by
  have hnumber := (number_eq h).symm.trans (number_eq h')
  obtain ⟨htable, hcolumn, hscope, -, hdigits, -⟩ := of_decide_eq_true h
  obtain ⟨htable', hcolumn', hscope', -, hdigits', -⟩ := of_decide_eq_true h'
  have hdash : ∀ {ds : Text}, AllDigits ds → ∀ c ∈ ds, c ≠ '-' := by
    rintro ds hds c hc rfl
    exact absurd (hds _ hc) (by decide)
  -- the prefix ends at the last dash of the number
  have hlast : ∀ {p p' ds ds' : Text}, (p ++ ['-']) ++ ds = (p' ++ ['-']) ++ ds' → AllDigits ds →
      AllDigits ds' → p = p' := by
    intro p p' ds ds' heq hds hds'
    have hsplit : ∀ {q : Text} {es : Text}, AllDigits es →
        ((q ++ ['-']) ++ es).reverse.dropWhile (· ≠ '-') = '-' :: q.reverse := by
      intro q es hes
      rw [List.reverse_append, List.dropWhile_append_of_pos]
      · simp
      · intro c hc
        simpa using hdash hes c (List.mem_reverse.mp hc)
    have hsame := hsplit (q := p) hds
    rw [heq, hsplit hds'] at hsame
    exact (List.reverse_injective (List.cons.inj hsame).2).symm
  have hprefijo : r.prefijo now = r'.prefijo now' := by
    have heq := @hlast (r.seriesPrefix ++ '-' :: serieYear r.date now)
      (r'.seriesPrefix ++ '-' :: serieYear r'.date now') _ _ hnumber hdigits hdigits'
    rw [prefijo, prefijo, heq]
  simp only [lockKey, ← htable, ← htable', ← hcolumn, ← hcolumn', ← hscope, ← hscope', hprefijo]

end DocumentNumberRequest

end Series

/-! ## What the next number is -/

section Law

variable {now : Instant} {r : DocumentNumberRequest} {rows : List IssuedNumber}

open DocumentNumberRequest

theorem nearestNumber_ofNat {n : Nat} (h : n ≤ 2 ^ 53) : nearestNumber n = some (n : Int) := by
  rw [nearestNumber, nearestDouble, Int.natAbs_natCast, if_pos h]
  simp

theorem parseInt_digits {ds : Text} (h : AllDigits ds) (hne : ds ≠ []) (hsmall : value ds < 2 ^ 53) :
    parseInt ds = some (value ds : Int) := by
  cases ds with
  | nil => exact absurd rfl hne
  | cons d ds =>
    have hd := (isDigit_iff d).mp (h d List.mem_cons_self)
    have hspace : d.isWhitespace = false := by
      simp only [Char.isWhitespace, Bool.or_eq_false_iff, decide_eq_false_iff_not]
      refine ⟨⟨⟨?_, ?_⟩, ?_⟩, ?_⟩ <;> rintro rfl <;> simp at hd
    have hdigits : (d :: ds).takeWhile Char.isDigit = d :: ds :=
      List.takeWhile_eq_self_iff.mpr h
    have hplain : (d :: ds).dropWhile Char.isWhitespace = d :: ds := by simp [hspace]
    have hminus : d ≠ '-' := by rintro rfl; simp at hd
    have hplus : d ≠ '+' := by rintro rfl; simp at hd
    simp only [parseInt, hplain]
    split
    · exact absurd (List.cons.inj ‹_›).1 hminus
    · exact absurd (List.cons.inj ‹_›).1 hplus
    · rw [hdigits]
      exact nearestNumber_ofNat hsmall.le

/-- **The next number.** On a regular series it is one more than the greatest. -/
theorem nextDocumentNumber_eq (h : r.Regular now rows) :
    nextDocumentNumber now r rows = (r.row now (r.lastSequence now rows + 1)).number := by
  obtain ⟨hmatched, hlength, hsmall⟩ := h
  have hnumbers : (rows.filter (r.matched now)).map (·.number) =
      (rows.filter (r.inSeries now)).map (·.number) := by
    rw [List.filter_congr hmatched]
  have hsiguiente : siguiente now r (r.ultimo now rows) = (r.lastSequence now rows + 1 : Nat) := by
    unfold DocumentNumberRequest.ultimo
    rw [hnumbers]
    cases hmax : ((rows.filter (r.inSeries now)).map (·.number)).max? with
    | none =>
      have hnil := List.map_eq_nil_iff.mp (List.max?_eq_none_iff.mp hmax)
      rw [lastSequence_eq_zero fun row hrow => Bool.not_eq_true _ ▸ List.filter_eq_nil_iff.mp hnil row hrow]
      rfl
    | some ultimo =>
      obtain ⟨hmem, hle⟩ := List.max?_eq_some_iff.mp hmax
      obtain ⟨row, hrow, rfl⟩ := List.mem_map.mp hmem
      obtain ⟨hrow, hin⟩ := List.mem_filter.mp hrow
      obtain ⟨-, -, -, -, hdigits, hne⟩ := of_decide_eq_true hin
      -- the greatest text of one length is the greatest number
      have hlast : r.lastSequence now rows = r.sequence now row := by
        refine lastSequence_eq hrow hin fun x hx hxin => not_lt.mp fun hlt => ?_
        obtain ⟨-, -, -, -, hxdigits, -⟩ := of_decide_eq_true hxin
        have hsame := hlength row hrow x hx hin hxin
        rw [number_eq hin, number_eq hxin, List.length_append, List.length_append] at hsame
        have htail := (lt_iff_value_lt hdigits hxdigits (by omega)).mpr hlt
        have hbelow := hle x.number (List.mem_map_of_mem (List.mem_filter.mpr ⟨hx, hxin⟩))
        rw [number_eq hin, number_eq hxin] at hbelow
        exact absurd hbelow (not_le.mpr (List.append_left_lt htail))
      have hread : parseInt (row.number.drop (r.prefijo now).length) = some (r.sequence now row : Int) :=
        parseInt_digits hdigits hne (hsmall row hrow hin)
      have hnext := nearestNumber_ofNat (n := r.sequence now row + 1) (hsmall row hrow hin)
      rw [Nat.cast_add, Nat.cast_one] at hnext
      simp only [siguiente, hread, hnext, hlast, Option.getD_some, Nat.cast_add, Nat.cast_one]
  rw [nextDocumentNumber, hsiguiente]
  rfl

end Law

/-! ## The transactions -/

/-- A document to be numbered: the request, and the clock when it is made. -/
structure Emission where
  request : DocumentNumberRequest
  now : Instant
  deriving DecidableEq

/-- The series of a document. -/
abbrev Emission.lockKey (e : Emission) : Text := e.request.lockKey e.now

abbrev Emission.inSeries (e : Emission) (row : IssuedNumber) : Bool := e.request.inSeries e.now row

/-- How far the next document of a transaction is. -/
inductive NumberingStage where
  | calling
  /-- The advisory lock of the series is held. -/
  | locked
  /-- `nextDocumentNumber` returned; the document is to be inserted. -/
  | numbered (number : Text)
  deriving DecidableEq

/-- A transaction: the advisory locks it holds, the documents it has inserted, and those to come. -/
structure NumberingPoint where
  locks : List Text
  inserted : List IssuedNumber
  stage : NumberingStage
  todo : List Emission
  deriving DecidableEq

/-- Transactions that number and insert any documents, one after the other. -/
def numberingProgram : Program (List IssuedNumber) (List Emission) Text NumberingPoint where
  start todo := ⟨[], [], .calling, todo⟩
  locks p := p.locks
  writes p rows := rows ++ p.inserted
  next
    | ⟨locks, inserted, .calling, e :: todo⟩, _ => .goto ⟨e.lockKey :: locks, inserted, .locked, e :: todo⟩
    | ⟨locks, inserted, .locked, e :: todo⟩, rows =>
      .goto ⟨locks, inserted, .numbered (nextDocumentNumber e.now e.request rows), e :: todo⟩
    | ⟨locks, inserted, .numbered number, e :: todo⟩, _ =>
      .goto ⟨locks, inserted ++ [⟨e.request.table, e.request.column, e.request.scope, number⟩], .calling, todo⟩
    | ⟨_, _, _, []⟩, _ => .commit
  locks_start _ := rfl
  locks_next {p p' rows} h k hk := by
    rcases p with ⟨locks, inserted, _ | _ | _, _ | ⟨e, todo⟩⟩
    · cases h
    · cases h
      exact List.mem_cons_of_mem _ hk
    · cases h
    · cases h
      exact hk
    · cases h
    · cases h
      exact hk

/-- The condition on a call: what it reads is regular. -/
def RegularCall (S : Sessions (List IssuedNumber) NumberingPoint) : Act (List Emission) → Prop
  | .advance t =>
    match S.find? t with
    | some ⟨_, inserted, .locked, e :: _⟩ => e.request.Regular e.now (S.committed ++ inserted)
    | _ => True
  | _ => True

section Invariant

variable {S S' : Sessions (List IssuedNumber) NumberingPoint}

/-- What holds of a transaction over the committed rows. -/
structure NumberingPointInv (rows : List IssuedNumber) (p : NumberingPoint) : Prop where
  /-- A document was inserted under the lock of its series. -/
  owned : ∀ row ∈ p.inserted, ∃ e : Emission, e.inSeries row = true ∧ e.lockKey ∈ p.locks
  locked : ∀ e todo, p.todo = e :: todo → p.stage ≠ .calling → e.lockKey ∈ p.locks
  distinct : (rows ++ p.inserted).Nodup
  /-- The number in hand is one more than the last of the series. -/
  numbered : ∀ number e todo, p.stage = .numbered number → p.todo = e :: todo →
    number = (e.request.row e.now (e.request.lastSequence e.now (rows ++ p.inserted) + 1)).number

/-- What holds of the committed rows and of every transaction in progress. -/
structure NumberingInv (S : Sessions (List IssuedNumber) NumberingPoint) : Prop where
  exclusive : numberingProgram.Exclusive S
  distinct : S.committed.Nodup
  points : ∀ x ∈ S.active, NumberingPointInv S.committed x.2

/-- What a statement of a transaction leaves. -/
private theorem NumberingPointInv.goto {rows : List IssuedNumber} {p p' : NumberingPoint}
    (h : NumberingPointInv rows p)
    (hregular : ∀ e todo, p.todo = e :: todo → p.stage = .locked →
      e.request.Regular e.now (rows ++ p.inserted))
    (hnext : numberingProgram.next p (numberingProgram.writes p rows) = .goto p') :
    NumberingPointInv rows p' := by
  rcases p with ⟨locks, inserted, _ | _ | number, _ | ⟨e, todo⟩⟩
  · cases hnext
  · cases hnext
    refine ⟨fun row hrow => ?_, fun e' todo' htodo _ => ?_, h.distinct, nofun⟩
    · obtain ⟨e', hin, hlock⟩ := h.owned row hrow
      exact ⟨e', hin, List.mem_cons_of_mem _ hlock⟩
    · obtain rfl : e = e' := (List.cons.inj htodo).1
      exact List.mem_cons_self
  · cases hnext
  · cases hnext
    refine ⟨h.owned, fun e' todo' htodo _ => h.locked e' todo' htodo nofun, h.distinct,
      fun number e' todo' hstage htodo => ?_⟩
    obtain rfl : e = e' := (List.cons.inj htodo).1
    rw [← NumberingStage.numbered.inj hstage]
    exact nextDocumentNumber_eq (hregular e todo rfl rfl)
  · cases hnext
  · cases hnext
    have hnumber := h.numbered number e todo rfl rfl
    set last := e.request.lastSequence e.now (rows ++ inserted) with hlast
    have hrow : (⟨e.request.table, e.request.column, e.request.scope, number⟩ : IssuedNumber) =
        e.request.row e.now (last + 1) := by rw [hnumber]; rfl
    refine ⟨fun row hmem => ?_, fun _ _ _ hstage => absurd rfl hstage, ?_, nofun⟩
    · rcases List.mem_append.mp hmem with hmem | hmem
      · exact h.owned row hmem
      · rw [List.mem_singleton.mp hmem, hrow]
        exact ⟨e, DocumentNumberRequest.inSeries_row _, h.locked e todo rfl nofun⟩
    · rw [← List.append_assoc, hrow]
      refine h.distinct.append (List.nodup_singleton _) fun row hmem hmem' => ?_
      -- the new number is above every number of its series
      rw [List.mem_singleton.mp hmem'] at hmem
      have hle := DocumentNumberRequest.sequence_le hmem (DocumentNumberRequest.inSeries_row _)
      rw [DocumentNumberRequest.sequence_row, hlast] at hle
      exact absurd hle (Nat.not_succ_le_self _)

/-- What a transaction relies on outlives the documents of another, inserted under other locks. -/
private theorem NumberingPointInv.others {rows : List IssuedNumber} {p q : NumberingPoint}
    (hp : NumberingPointInv rows p) (hq : NumberingPointInv rows q)
    (hapart : ∀ k ∈ p.locks, k ∉ q.locks) : NumberingPointInv (rows ++ q.inserted) p := by
  have hforeign : ∀ row ∈ q.inserted, ∀ e : Emission, e.lockKey ∈ p.locks → e.inSeries row = false := by
    intro row hrow e hlock
    obtain ⟨e', hin', hlock'⟩ := hq.owned row hrow
    cases hin : e.inSeries row with
    | false => rfl
    | true =>
      have hkey : e.lockKey = e'.lockKey := DocumentNumberRequest.lockKey_eq hin hin'
      exact absurd (hkey ▸ hlock') (hapart _ hlock)
  refine ⟨hp.owned, hp.locked, ?_, fun number e todo hstage htodo => ?_⟩
  · refine hq.distinct.append (List.Nodup.of_append_right hp.distinct) fun row hmem hmem' => ?_
    rcases List.mem_append.mp hmem with hmem | hmem
    · exact List.disjoint_of_nodup_append hp.distinct hmem hmem'
    · obtain ⟨e, hin, hlock⟩ := hp.owned row hmem'
      rw [hforeign row hmem e hlock] at hin
      cases hin
  · have hlock := hp.locked e todo htodo (by rw [hstage]; nofun)
    have hsame : ((rows ++ q.inserted) ++ p.inserted).filter e.inSeries = (rows ++ p.inserted).filter e.inSeries := by
      have hnone : q.inserted.filter e.inSeries = [] :=
        List.filter_eq_nil_iff.mpr fun row hrow => by simp [hforeign row hrow e hlock]
      simp only [List.filter_append, hnone, List.append_nil]
    rw [hp.numbered number e todo hstage htodo]
    simp only [DocumentNumberRequest.lastSequence, hsame]

/-- **One step**, of any transaction, under the condition on its call. -/
theorem NumberingInv.step (h : NumberingInv S) {a : Act (List Emission)} (hok : RegularCall S a)
    (hstep : numberingProgram.step S a = some S') : NumberingInv S' := by
  have hothers : ∀ t, ∀ x ∈ S.others t, NumberingPointInv S.committed x.2 := fun t x hx =>
    h.points x (Sessions.mem_others.mp hx).1
  have hexclusive := h.exclusive.step hstep
  cases Program.step_cases hstep with
  | started =>
    refine ⟨hexclusive, h.distinct, List.forall_mem_cons.mpr ⟨⟨nofun, ?_, ?_, nofun⟩, hothers _⟩⟩
    · exact fun _ _ _ hstage => absurd rfl hstage
    · simpa [numberingProgram] using h.distinct
  | @moved t p p' hfind hnext =>
    refine ⟨hexclusive, h.distinct, List.forall_mem_cons.mpr ⟨?_, hothers _⟩⟩
    refine (h.points _ (S.mem_of_find? hfind)).goto (fun e todo htodo hstage => ?_) hnext
    rcases p with ⟨locks, inserted, stage, todo'⟩
    obtain rfl : stage = .locked := hstage
    obtain rfl : todo' = e :: todo := htodo
    simpa [RegularCall, hfind] using hok
  | @committed t p hfind =>
    have hmem := S.mem_of_find? hfind
    have hp := h.points _ hmem
    refine ⟨hexclusive, hp.distinct, fun x hx => ?_⟩
    obtain ⟨hx, hne⟩ := Sessions.mem_others.mp hx
    exact (h.points x hx).others hp fun k hk => h.exclusive x hx (t, p) hmem hne k hk
  | rolledBack => exact ⟨hexclusive, h.distinct, hothers _⟩
  | failed => exact ⟨hexclusive, h.distinct, hothers _⟩

end Invariant

/-- Any interleaving, from tables whose numbers do not repeat. -/
def numberingMachine : Machine (Sessions (List IssuedNumber) NumberingPoint) (Act (List Emission)) :=
  numberingProgram.machine List.Nodup

theorem numberingInv_of_reachable {S : Sessions (List IssuedNumber) NumberingPoint}
    (h : numberingMachine.Reachable RegularCall S) : NumberingInv S := by
  refine Machine.invariant (fun S hinit => ?_) (fun _ _ _ hok hstep hinv => hinv.step hok hstep) h
  refine ⟨fun x hx => ?_, hinit.1, fun x hx => ?_⟩ <;> rw [hinit.2] at hx <;> cases hx

/-- **Numbers never repeat**, in every run whose calls read a regular series: no two committed documents
have the same number in the same scope, and the number in the hand of a transaction is one more than the
last of its series. -/
theorem numbering_of_reachable {S : Sessions (List IssuedNumber) NumberingPoint}
    (h : numberingMachine.Reachable RegularCall S) :
    S.committed.Nodup ∧
      ∀ t locks inserted number e todo, (t, ⟨locks, inserted, .numbered number, e :: todo⟩) ∈ S.active →
        number = (e.request.row e.now
          (e.request.lastSequence e.now (S.committed ++ inserted) + 1)).number := by
  have hinv := numberingInv_of_reachable h
  refine ⟨hinv.distinct, fun t locks inserted number e todo hmem => ?_⟩
  exact (hinv.points _ hmem).numbered number e todo rfl rfl

/-! ## When the padding runs out -/

section Overflow

variable {now : Instant} {r : DocumentNumberRequest}

/-- The rows of the first `n` numbers of a series. -/
def issued (now : Instant) (r : DocumentNumberRequest) (n : Nat) : List IssuedNumber :=
  (List.range n).map fun i => r.row now (i + 1)

/-- A prefix without the characters that `LIKE` gives a meaning. -/
def LiteralText (p : Text) : Prop := ∀ c ∈ p, c ≠ '%' ∧ c ≠ '_' ∧ c ≠ '\\'

theorem like_literal {p : Text} (h : LiteralText p) (s : Text) : like (p ++ ['%']) (p ++ s) = true := by
  induction p with
  | nil => exact List.any_eq_true.mpr ⟨[], (List.mem_tails _ _).mpr List.nil_suffix, rfl⟩
  | cons c p ih =>
    obtain ⟨hpercent, hunderscore, hescape⟩ := h c List.mem_cons_self
    have hrest := ih fun d hd => h d (List.mem_cons_of_mem _ hd)
    rw [List.cons_append, List.cons_append, like]
    · simpa using hrest
    · exact hpercent
    · exact hunderscore
    · rintro c' p' rfl
      exact absurd rfl hescape

theorem mem_issued {n : Nat} {x : IssuedNumber} :
    x ∈ issued now r n ↔ ∃ k, 0 < k ∧ k ≤ n ∧ x = r.row now k := by
  simp only [issued, List.mem_map, List.mem_range]
  constructor
  · rintro ⟨i, hi, rfl⟩
    exact ⟨i + 1, by omega, by omega, rfl⟩
  · rintro ⟨k, hk, hkn, rfl⟩
    exact ⟨k - 1, by omega, by rw [Nat.sub_add_cancel hk]⟩

theorem matched_row (hprefijo : LiteralText (r.prefijo now)) (n : Nat) :
    r.matched now (r.row now n) = true := by
  refine decide_eq_true ⟨rfl, rfl, ?_, like_literal hprefijo _⟩
  cases h : r.scope with
  | none => exact .inl rfl
  | some scope => exact .inr h

theorem lastSequence_issued (n : Nat) : r.lastSequence now (issued now r n) = n := by
  cases n with
  | zero => rfl
  | succ n =>
    have hlast : r.row now (n + 1) ∈ issued now r (n + 1) := mem_issued.mpr ⟨n + 1, by omega, le_refl _, rfl⟩
    rw [DocumentNumberRequest.lastSequence_eq hlast (DocumentNumberRequest.inSeries_row _),
      DocumentNumberRequest.sequence_row]
    intro x hx _
    obtain ⟨k, -, hk, rfl⟩ := mem_issued.mp hx
    rwa [DocumentNumberRequest.sequence_row, DocumentNumberRequest.sequence_row]

variable (hprefijo : LiteralText (r.prefijo now)) (hdigits : 0 < r.digits) (hexact : r.digits ≤ 15)

include hprefijo hdigits hexact

/-- While the numbers fit the padding, a series that was numbered from 1 is regular. -/
theorem regular_issued {n : Nat} (hn : n < 10 ^ r.digits) : r.Regular now (issued now r n) := by
  have hlength : ∀ x ∈ issued now r n, x.number.length = (r.prefijo now).length + r.digits := by
    intro x hx
    obtain ⟨k, -, hk, rfl⟩ := mem_issued.mp hx
    rw [DocumentNumberRequest.row, List.length_append, length_pad hdigits (by omega)]
  refine ⟨fun x hx => ?_, fun a ha b hb _ _ => (hlength a ha).trans (hlength b hb).symm, fun x hx _ => ?_⟩
  · obtain ⟨k, -, -, rfl⟩ := mem_issued.mp hx
    rw [matched_row hprefijo, DocumentNumberRequest.inSeries_row]
  · obtain ⟨k, -, hk, rfl⟩ := mem_issued.mp hx
    rw [DocumentNumberRequest.sequence_row]
    have : 10 ^ r.digits ≤ 10 ^ 15 := Nat.pow_le_pow_right (by decide) hexact
    omega

/-- One emission after the other, the first `10^padding` numbers are handed out in order. -/
theorem issued_reachable {n : Nat} (hn : n ≤ 10 ^ r.digits) :
    numberingMachine.Reachable (fun _ _ => True) ⟨issued now r n, []⟩ := by
  induction n with
  | zero => exact .of_init ⟨List.nodup_nil, rfl⟩
  | succ n ih =>
    have hregular := regular_issued hprefijo hdigits hexact (n := n) (by omega)
    have hnumber := nextDocumentNumber_eq hregular
    rw [lastSequence_issued] at hnumber
    have halone : numberingProgram.Alone (issued now r n) (numberingProgram.start [⟨r, now⟩])
        ⟨[r.lockKey now], [r.row now (n + 1)], .calling, []⟩ := by
      refine .step rfl (@Program.Alone.step _ _ _ _ _ _ _ ⟨_, [], .numbered (r.row now (n + 1)).number, [⟨r, now⟩]⟩ _ ?_
        (.step rfl (.refl _)))
      rw [← hnumber]
      simp [numberingProgram]
    obtain ⟨as, hrun⟩ := @Program.Alone.run_commit _ _ _ _ _ _ List.Nodup _ _ _ halone rfl
    have hrows : issued now r n ++ [r.row now (n + 1)] = issued now r (n + 1) := by
      simp [issued, List.range_succ]
    exact hrows ▸ (ih (by omega)).run hrun

/-- **The overflow.** After `10^padding` numbers, the last of them is handed out again: as a text, the
number of all nines is still the greatest. -/
theorem nextDocumentNumber_overflow :
    nextDocumentNumber now r (issued now r (10 ^ r.digits)) = (r.row now (10 ^ r.digits)).number := by
  have hpos : 10 ^ r.digits ≥ 10 := by
    calc 10 = 10 ^ 1 := rfl
      _ ≤ 10 ^ r.digits := Nat.pow_le_pow_right (by decide) hdigits
  have hsmall : 10 ^ r.digits ≤ 10 ^ 15 := Nat.pow_le_pow_right (by decide) hexact
  have hfilter : (issued now r (10 ^ r.digits)).filter (r.matched now) = issued now r (10 ^ r.digits) := by
    refine List.filter_eq_self.mpr fun x hx => ?_
    obtain ⟨k, -, -, rfl⟩ := mem_issued.mp hx
    exact matched_row hprefijo k
  have hultimo : r.ultimo now (issued now r (10 ^ r.digits)) =
      some (r.prefijo now ++ pad r.digits (10 ^ r.digits - 1)) := by
    rw [DocumentNumberRequest.ultimo, hfilter, List.max?_eq_some_iff]
    refine ⟨List.mem_map.mpr ⟨_, mem_issued.mpr ⟨10 ^ r.digits - 1, by omega, by omega, rfl⟩, rfl⟩, fun b hb => ?_⟩
    obtain ⟨x, hx, rfl⟩ := List.mem_map.mp hb
    obtain ⟨k, -, hk, rfl⟩ := mem_issued.mp hx
    refine not_lt.mp fun hlt => ?_
    have hle : pad r.digits k ≤ pad r.digits (10 ^ r.digits - 1) := by
      rcases Nat.lt_or_ge k (10 ^ r.digits) with hfits | hover
      · refine not_lt.mp fun hlt => ?_
        rw [lt_iff_value_lt (allDigits_pad _ _) (allDigits_pad _ _)
          ((length_pad hdigits (by omega)).trans (length_pad hdigits hfits).symm), value_pad, value_pad] at hlt
        omega
      · obtain rfl : k = 10 ^ r.digits := le_antisymm hk hover
        exact (pad_overflow_lt hdigits).le
    rcases hle.eq_or_lt with heq | hlt'
    · exact absurd hlt (heq ▸ lt_irrefl _)
    · exact lt_asymm hlt (List.append_left_lt hlt')
  have hread := parseInt_digits (allDigits_pad r.digits (10 ^ r.digits - 1)) (pad_ne_nil _ _)
    (by rw [value_pad]; omega)
  have hnext := nearestNumber_ofNat (n := 10 ^ r.digits) (by omega)
  have hcast : ((10 ^ r.digits - 1 : Nat) : Int) + 1 = (10 ^ r.digits : Nat) := by omega
  rw [value_pad] at hread
  rw [nextDocumentNumber, hultimo]
  simp only [siguiente, List.drop_left, hread, hcast, hnext, Option.getD_some]
  rfl

/-- So a run of `10^padding` emissions leads to a number that repeats. -/
theorem overflow_reachable :
    ∃ S, numberingMachine.Reachable (fun _ _ => True) S ∧ S.committed = issued now r (10 ^ r.digits) ∧
      ∃ t locks inserted number e todo,
        (t, (⟨locks, inserted, .numbered number, e :: todo⟩ : NumberingPoint)) ∈ S.active ∧
          number = (r.row now (10 ^ r.digits)).number ∧ number ∈ S.committed.map (·.number) ∧
          number ≠ (e.request.row e.now (e.request.lastSequence e.now (S.committed ++ inserted) + 1)).number := by
  have hfull := issued_reachable hprefijo hdigits hexact (le_refl _)
  have hover := nextDocumentNumber_overflow hprefijo hdigits hexact
  refine ⟨⟨issued now r (10 ^ r.digits), [(0, ⟨[r.lockKey now], [],
    .numbered (r.row now (10 ^ r.digits)).number, [⟨r, now⟩]⟩)]⟩, ?_, rfl, 0, _, _, _, _, _,
    List.mem_cons_self, rfl, ?_, ?_⟩
  · have hbegin := hfull.step (a := .start 0 [⟨r, now⟩]) trivial rfl
    have hlock := hbegin.step (a := .advance 0) trivial rfl
    refine hlock.step (a := .advance 0) trivial ?_
    rw [← hover]
    simp [numberingMachine, Program.machine, Program.step, Sessions.find?, Program.view, numberingProgram,
      Program.free, Sessions.others]
  · have hpos : 0 < 10 ^ r.digits := Nat.pow_pos (by decide)
    exact List.mem_map.mpr ⟨_, mem_issued.mpr ⟨10 ^ r.digits, hpos, le_refl _, rfl⟩, rfl⟩
  · simp only [List.append_nil, lastSequence_issued]
    intro heq
    have hpad := List.append_cancel_left heq
    have := pad_injective _ hpad
    omega

end Overflow

/-- The invoices to merchants of 2026. -/
def facCm2026 : DocumentNumberRequest :=
  ⟨"FAC-CM".toList, "atlas_sales.merchant_invoices".toList, "invoice_number".toList,
    .text "2026-01-15".toList, none, none⟩

/-- The invoice after the first million is handed the number that the last of them has. -/
theorem numbering_counterexample :
    ∃ S, numberingMachine.Reachable (fun _ _ => True) S ∧
      S.committed = issued 0 facCm2026 (10 ^ facCm2026.digits) ∧
      ∃ t locks inserted number e todo,
        (t, (⟨locks, inserted, .numbered number, e :: todo⟩ : NumberingPoint)) ∈ S.active ∧
          number = "FAC-CM-2026-1000000".toList ∧ number ∈ S.committed.map (·.number) ∧
          number ≠ (e.request.row e.now
            (e.request.lastSequence e.now (S.committed ++ inserted) + 1)).number := by
  have hprefijo : LiteralText (facCm2026.prefijo 0) := by unfold LiteralText; decide
  obtain ⟨S, hS, hcommitted, t, locks, inserted, number, e, todo, hmem, hnumber, hrest⟩ :=
    overflow_reachable hprefijo (by decide) (by decide)
  have htext : (facCm2026.row 0 (10 ^ facCm2026.digits)).number = "FAC-CM-2026-1000000".toList := by
    decide
  exact ⟨S, hS, hcommitted, t, locks, inserted, number, e, todo, hmem, hnumber.trans htext, hrest⟩

/-! ## A run -/

/-- Two invoices to merchants, numbered by overlapping transactions: the second waits for the first. -/
def twoInvoices : List (Act (List Emission)) :=
  [.start 1 [⟨facCm2026, 0⟩], .start 2 [⟨facCm2026, 0⟩], .advance 1, .advance 1, .advance 1, .advance 1,
    .advance 2, .advance 2, .advance 2, .advance 2]

instance (S : Sessions (List IssuedNumber) NumberingPoint) (a : Act (List Emission)) :
    Decidable (RegularCall S a) := by
  unfold RegularCall
  split
  · split <;> infer_instance
  · infer_instance

theorem numbering_of_reachable_twoInvoices :
    (numberingMachine.afterIf RegularCall ⟨[], []⟩ twoInvoices).committed.map (·.number) =
        ["FAC-CM-2026-000001".toList, "FAC-CM-2026-000002".toList] ∧
      (numberingMachine.afterIf RegularCall ⟨[], []⟩ twoInvoices).committed.Nodup ∧
      ∀ t locks inserted number e todo,
        (t, (⟨locks, inserted, .numbered number, e :: todo⟩ : NumberingPoint)) ∈
          (numberingMachine.afterIf RegularCall ⟨[], []⟩ twoInvoices).active →
        number = (e.request.row e.now (e.request.lastSequence e.now
          ((numberingMachine.afterIf RegularCall ⟨[], []⟩ twoInvoices).committed ++ inserted) + 1)).number :=
  ⟨by decide, numbering_of_reachable
    (numberingMachine.reachable_afterIf RegularCall ⟨List.nodup_nil, rfl⟩ twoInvoices)⟩

end AtlasErp
