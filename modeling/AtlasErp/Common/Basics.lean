import AtlasErp.Lib.Chars
import Mathlib.Data.Int.Basic
import Mathlib.Data.List.DropRight
import Mathlib.Tactic.Common

/-! # Instants, business days, actors and HTTP errors

What every service of the ERP shares.

- `businessDate` and `isPastDue`: the cut-off policy, the calendar day of Bolivia (UTC−4);
- `HttpError`: the exceptions a handler throws, with the texts of the source;
- `fromMinorUnits`: how an amount of money is written.  Amounts are integers of minor units, a
  `numeric(18,2)` column as `toMinorUnits` reads it. -/

namespace AtlasErp

/-- Milliseconds since the epoch. -/
abbrev Instant := Int

/-- A calendar day, counted from 1970-01-01. -/
abbrev Day := Int

/-- An amount that passed the schema of a money input: greater than zero. -/
abbrev PositiveAmount := { amount : Int // 0 < amount }

/-- The uuid of an internal user. -/
abbrev UserId := Nat

/-! ## Business days -/

/-- The business day of an instant: the calendar day of America/La_Paz, UTC−4 all year. -/
def businessDate (now : Instant) : Day := (now - 4 * 3600 * 1000) / 86400000

/-- An installment is past due when its due date is before the business day. -/
def isPastDue (dueDate today : Day) : Bool := dueDate < today

/-- Decimal digits, padded with zeros on the left. -/
def padded (width : Nat) (n : Int) : String :=
  let digits := toString n
  String.ofList (List.replicate (width - digits.length) '0') ++ digits

/-- A day as `YYYY-MM-DD`, in the proleptic Gregorian calendar. -/
def dateText (day : Day) : String :=
  let z := day + 719468
  let era := z / 146097
  let doe := z - era * 146097
  let yoe := (doe - doe / 1460 + doe / 36524 - doe / 146096) / 365
  let doy := doe - (365 * yoe + yoe / 4 - yoe / 100)
  let mp := (5 * doy + 2) / 153
  let month := if mp < 10 then mp + 3 else mp - 9
  let year := yoe + era * 400 + (if month ≤ 2 then 1 else 0)
  padded 4 year ++ "-" ++ padded 2 month ++ "-" ++ padded 2 (doy - (153 * mp + 2) / 5 + 1)

example : dateText 20720 = "2026-09-24" := by decide

/-! ## Texts -/

/-- A text, character by character. -/
abbrev Text := List Char

/-- White space, as `trim` and `\s` have it. -/
def isWhiteSpace (c : Char) : Bool :=
  c.toNat ∈ [0x9, 0xA, 0xB, 0xC, 0xD, 0x20, 0xA0, 0x1680, 0x2028, 0x2029, 0x202F, 0x205F, 0x3000, 0xFEFF] ∨
    (0x2000 ≤ c.toNat ∧ c.toNat ≤ 0x200A)

def trim (texto : Text) : Text := (texto.dropWhile isWhiteSpace).rdropWhile isWhiteSpace

theorem trim_trim (text : Text) : trim (trim text) = trim text := by
  have hdrop : (trim text).dropWhile isWhiteSpace = trim text := by
    rw [List.dropWhile_eq_self_iff]
    intro hpos
    have hspaces : trim text <+: text.dropWhile isWhiteSpace := List.rdropWhile_prefix _ _
    have hlength : 0 < (text.dropWhile isWhiteSpace).length := hpos.trans_le hspaces.length_le
    rw [hspaces.getElem hpos]
    exact List.dropWhile_get_zero_not isWhiteSpace text hlength
  rw [trim, hdrop]
  exact List.rdropWhile_idempotent _ _

/-- `String(n)` of an integer below `10^21`. -/
def decimalText (n : Int) : Text :=
  if n < 0 then '-' :: Nat.toDigits 10 n.natAbs else Nat.toDigits 10 n.natAbs

/-! ## Amounts as text -/

/-- Minor units as a decimal text with two decimals. -/
def fromMinorUnits (minor : Int) : String :=
  let sign := if minor < 0 then "-" else ""
  sign ++ toString (minor.natAbs / 100) ++ "." ++ padded 2 (minor.natAbs % 100 : Nat)

example : fromMinorUnits (-30050) = "-300.50" := by decide

/-! ## Errors -/

/-- The HTTP exceptions the services throw. -/
inductive HttpStatus where
  | badRequest
  | forbidden
  | notFound
  | conflict
  | unprocessableEntity
  /-- An error no handler caught. -/
  | internalServerError
  deriving DecidableEq

/-- An exception: its status, its `code` when it has one, and its message. -/
structure HttpError where
  status : HttpStatus
  code : Option String
  message : String
  deriving DecidableEq

/-- `new NotFoundException(message)`. -/
def notFound (message : String) : HttpError := ⟨.notFound, none, message⟩

/-- `new ConflictException({ code, message })`. -/
def conflict (code message : String) : HttpError := ⟨.conflict, some code, message⟩

/-- `new ConflictException(message)`. -/
def conflictText (message : String) : HttpError := ⟨.conflict, none, message⟩

/-- `new BadRequestException(message)`. -/
def badRequest (message : String) : HttpError := ⟨.badRequest, none, message⟩

/-- `new ForbiddenException({ code, message })`. -/
def forbidden (code message : String) : HttpError := ⟨.forbidden, some code, message⟩

/-- `new UnprocessableEntityException({ code, message })`. -/
def unprocessable (code message : String) : HttpError := ⟨.unprocessableEntity, some code, message⟩

/-- Who acts: the `sub` of the token. -/
structure CoverageActor where
  userId : UserId
  deriving DecidableEq

end AtlasErp
