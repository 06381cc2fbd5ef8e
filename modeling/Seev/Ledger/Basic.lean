import Mathlib.Algebra.Order.Field.Rat
import Mathlib.Data.List.DropRight
import Seev.Lib.DoubleEntry

/-!
# Ledger data model

The values the posting path reads and writes: identifiers, amounts, command
metadata, transaction types, account rows and errors.

`decimal.Decimal` is an arbitrary-precision decimal; its value is a rational, so
`Decimal` is `ℚ` and equality is equality of values. Columns of type `BIGINT`
are integers with an explicit range check. The text forms of decimals and UUIDs
and the Unicode case mapping belong to other packages and are a parameter (`Text`).
-/

namespace Seev.Ledger

open Lib

/-- A UUID, read as a number; `uuid.Nil` is `0`. -/
abbrev UUID := ℕ

/-- `uuid.Nil` -/
abbrev UUID.nil : UUID := 0

/-- A currency code such as `"IDR"`. -/
abbrev Currency := String

/-- `decimal.Decimal`, whose operations here are exact. -/
abbrev Decimal := ℚ

namespace Decimal

/-- `d.IsInteger()`, which is also `d.Equal(d.Truncate(0))`. -/
def isInteger (d : Decimal) : Bool := d.den == 1

/-- `math.MaxInt64` -/
def maxInt64 : ℤ := 2 ^ 63 - 1

/-- `math.MinInt64` -/
def minInt64 : ℤ := -2 ^ 63

/-- `n` fits a signed 64-bit column. -/
def inInt64 (n : ℤ) : Bool := decide (minInt64 ≤ n) && decide (n ≤ maxInt64)

/-- `d.IntPart()`: the integer part, reduced to 64 bits when it does not fit. -/
def intPart (d : Decimal) : ℤ := (d.num.tdiv d.den).bmod (2 ^ 64)

/-- `$1::BIGINT` on `d.String()`: the cast fails on a fraction and out of range. -/
def toBigint (d : Decimal) : Option ℤ := if d.isInteger && inInt64 d.num then some d.num else none

end Decimal

/-- The text functions of the `decimal`, `uuid` and `strings` packages. A failed parse
carries the package's own error text. -/
structure Text where
  /-- `d.String()` -/
  decimalString : Decimal → String
  /-- `decimal.NewFromString` -/
  newFromString : String → Except String Decimal
  /-- `id.String()` -/
  uuidString : UUID → String
  /-- `uuid.Parse` -/
  parseUUID : String → Except String UUID
  /-- `strings.ToUpper`, which maps letters outside ASCII too -/
  toUpper : String → String

/-- `unicode.IsSpace` -/
def isSpace (ch : Char) : Bool :=
  let n := ch.toNat
  (9 ≤ n && n ≤ 13) || n = 0x20 || n = 0x85 || n = 0xA0 || n = 0x1680 || (0x2000 ≤ n && n ≤ 0x200A) ||
    n = 0x2028 || n = 0x2029 || n = 0x202F || n = 0x205F || n = 0x3000

/-- `strings.TrimSpace` -/
def trimSpace (s : String) : String :=
  String.ofList ((s.toList.dropWhile isSpace).reverse.dropWhile isSpace).reverse

/-- `%q`, on a text with nothing in it to escape -/
def quote (s : String) : String := "\"" ++ s ++ "\""

/-! ## Errors -/

/-- The sentinels of `apperror` that the posting path returns. -/
inductive Sentinel where
  | insufficientFunds | accountSuspended | accountClosed | selfTransfer
  | amountTooSmall | amountTooLarge | originalNotFound | alreadyReversed
  | notReversible | feeExceedsAmount | alreadyClosed | originalTypeMismatch
  | lifecycleAmountMismatch | quoteExpired | quoteMismatch | currencyInvalid
  | currencyDisabled | currencyOperationDisabled | currencyNotEnabled
  | currencyLimitExceeded | fxPositionLimitExceeded | validation
  | accountNotFound | currencyMismatch | unknownProcessor | unbalancedEntries
  | emptyIdempotencyKey | moneyOverflow | alreadyPosted | previousFailed
  | stillProcessing | idempotencyConflict
  deriving DecidableEq, Repr

/-- The code of an error. -/
def Sentinel.code : Sentinel → String
  | insufficientFunds => "INSUFFICIENT_FUNDS"
  | accountSuspended => "ACCOUNT_SUSPENDED"
  | accountClosed => "ACCOUNT_CLOSED"
  | selfTransfer => "SELF_TRANSFER"
  | amountTooSmall => "AMOUNT_TOO_SMALL"
  | amountTooLarge => "AMOUNT_TOO_LARGE"
  | originalNotFound => "ORIGINAL_TX_NOT_FOUND"
  | alreadyReversed => "ALREADY_REVERSED"
  | notReversible => "NOT_REVERSIBLE"
  | feeExceedsAmount => "FEE_EXCEEDS_AMOUNT"
  | alreadyClosed => "ALREADY_CLOSED"
  | originalTypeMismatch => "ORIGINAL_TYPE_MISMATCH"
  | lifecycleAmountMismatch => "LIFECYCLE_AMOUNT_MISMATCH"
  | quoteExpired => "QUOTE_EXPIRED"
  | quoteMismatch => "QUOTE_MISMATCH"
  | currencyInvalid => "CURRENCY_INVALID"
  | currencyDisabled => "CURRENCY_DISABLED"
  | currencyOperationDisabled => "CURRENCY_OPERATION_DISABLED"
  | currencyNotEnabled => "CURRENCY_NOT_ENABLED"
  | currencyLimitExceeded => "CURRENCY_LIMIT_EXCEEDED"
  | fxPositionLimitExceeded => "FX_POSITION_LIMIT_EXCEEDED"
  | validation => "VALIDATION_ERROR"
  | accountNotFound => "ACCOUNT_NOT_FOUND"
  | currencyMismatch => "CURRENCY_MISMATCH"
  | unknownProcessor => "UNKNOWN_TX_TYPE"
  | unbalancedEntries => "UNBALANCED_ENTRIES"
  | emptyIdempotencyKey => "EMPTY_IDEMPOTENCY_KEY"
  | moneyOverflow => "MONEY_OVERFLOW"
  | alreadyPosted => "ALREADY_POSTED"
  | previousFailed => "PREVIOUS_ATTEMPT_FAILED"
  | stillProcessing => "STILL_PROCESSING"
  | idempotencyConflict => "IDEMPOTENCY_CONFLICT"

/-- An error: the sentinel `errors.Is` finds in it, if any, and its text. A Go panic
travels the same way, marked: no caller on the posting path recovers it. -/
structure Err where
  sentinel : Option Sentinel
  text : String
  panics : Bool := false
  deriving DecidableEq, Repr

namespace Err

/-- `fmt.Errorf("%w: ...", sentinel)` -/
def of (s : Sentinel) (msg : String) : Err := { sentinel := some s, text := s.code ++ ": " ++ msg }

/-- A bare sentinel. -/
def bare (s : Sentinel) : Err := { sentinel := some s, text := s.code }

/-- `apperror.NewBizErr(sentinel, msg)` -/
def newBizErr (s : Sentinel) (msg : String) : Err :=
  { sentinel := some s, text := "[" ++ s.code ++ "] " ++ msg }

/-- An error without a sentinel: infrastructure, or a bug of the program. -/
def plain (msg : String) : Err := { sentinel := none, text := msg }

/-- `runtime error: index out of range` -/
def indexOutOfRange : Err := { sentinel := none, text := "index out of range", panics := true }

/-- `fmt.Errorf("ctx: %w", err)` -/
def wrap (ctx : String) (e : Err) : Err := { e with text := ctx ++ ": " ++ e.text }

/-- `apperror.IsBusinessRejection`: every sentinel above except `ALREADY_POSTED`. -/
def isBusinessRejection (e : Err) : Bool :=
  match e.sentinel with
  | none => false
  | some .alreadyPosted => false
  | some _ => true

end Err

/-- `x`, with its error put in the context `ctx`. -/
def inContext {α : Type} (ctx : String) (x : Except Err α) : Except Err α := x.mapError (Err.wrap ctx)

@[simp] theorem inContext_eq_ok {α : Type} {ctx : String} {x : Except Err α} {a : α} :
    inContext ctx x = .ok a ↔ x = .ok a := by
  cases x <;> simp [inContext, Except.mapError]

/-! ## Command metadata -/

/-- The metadata keys the posting path reads, and those its callers set. -/
inductive MetaKey where
  | gateway | externalRef | requestID | feeAmount | feeGateway | feeApplication
  | totalDebit | payinID | feeQuoteID | currencyInflight | direction
  | destinationAccountID | merchantAccountID | disputeRef | cardNetwork | caseID
  | legalRef | authorizedBy | reason | ticketRef | currency | pair | quoteID
  | rate | batchID | itemNo | accountID | accrualDate | rateBps | enrollmentID
  | periodID | adjustmentID | correctionStage | providerReference
  deriving DecidableEq, Repr

/-- As the JSON has it. -/
def MetaKey.name : MetaKey → String
  | gateway => "gateway"
  | externalRef => "external_ref"
  | requestID => "request_id"
  | feeAmount => "fee_amount"
  | feeGateway => "fee_gateway"
  | feeApplication => "fee_application"
  | totalDebit => "total_debit"
  | payinID => "payin_id"
  | feeQuoteID => "fee_quote_id"
  | currencyInflight => "currency_inflight"
  | direction => "direction"
  | destinationAccountID => "destination_account_id"
  | merchantAccountID => "merchant_account_id"
  | disputeRef => "dispute_ref"
  | cardNetwork => "card_network"
  | caseID => "case_id"
  | legalRef => "legal_ref"
  | authorizedBy => "authorized_by"
  | reason => "reason"
  | ticketRef => "ticket_ref"
  | currency => "currency"
  | pair => "pair"
  | quoteID => "quote_id"
  | rate => "rate"
  | batchID => "batch_id"
  | itemNo => "item_no"
  | accountID => "account_id"
  | accrualDate => "accrual_date"
  | rateBps => "rate_bps"
  | enrollmentID => "enrollment_id"
  | periodID => "period_id"
  | adjustmentID => "adjustment_id"
  | correctionStage => "correction_stage"
  | providerReference => "provider_reference"

/-- A value of `map[string]any`, by dynamic type. -/
inductive MetaValue where
  | str (s : String)
  /-- a `float64`, as the decimal `decimal.NewFromFloat` makes of it -/
  | float64 (d : Decimal)
  | int (n : ℤ)
  | int64 (n : ℤ)
  | bool (b : Bool)
  | null
  /-- any other type, by its name and its text -/
  | other (goType text : String)
  deriving DecidableEq, Repr

/-- `%T` -/
def MetaValue.goType : MetaValue → String
  | str _ => "string"
  | float64 _ => "float64"
  | int _ => "int"
  | int64 _ => "int64"
  | bool _ => "bool"
  | null => "<nil>"
  | other t _ => t

/-- `%v` -/
def MetaValue.goString (T : Text) : MetaValue → String
  | str s => s
  | float64 d => T.decimalString d
  | int n => toString n
  | int64 n => toString n
  | bool b => toString b
  | null => "<nil>"
  | other _ text => text

/-- The metadata of a command. -/
abbrev Metadata := MetaKey → Option MetaValue

/-- The empty metadata map. -/
def Metadata.empty : Metadata := fun _ => none

/-- `meta[key] = value` -/
def Metadata.set (m : Metadata) (k : MetaKey) (v : MetaValue) : Metadata :=
  fun k' => if k' = k then some v else m k'

@[simp] theorem Metadata.set_self (m : Metadata) (k : MetaKey) (v : MetaValue) :
    m.set k v k = some v := by
  simp [Metadata.set]

theorem Metadata.set_of_ne (m : Metadata) {k k' : MetaKey} (v : MetaValue) (h : k' ≠ k) :
    m.set k v k' = m k' := by
  simp [Metadata.set, h]

/-- `metadata.MetaString` -/
def metaString (m : Metadata) (k : MetaKey) : Except Err String :=
  match m k with
  | none => .error (.plain ("missing metadata key " ++ quote k.name))
  | some (.str s) => .ok s
  | some v => .error (.plain ("metadata key " ++ quote k.name ++ " is not a string (got " ++ v.goType ++ ")"))

/-- `s, _ := metadata.MetaString(..)`: the empty string on an error. -/
def metaStringD (m : Metadata) (k : MetaKey) : String :=
  match metaString m k with
  | .ok s => s
  | .error _ => ""

/-- `metadata.MetaUUID` -/
def metaUUID (T : Text) (m : Metadata) (k : MetaKey) : Except Err UUID := do
  let s ← metaString m k
  match T.parseUUID s with
  | .ok id => .ok id
  | .error e => .error (.plain ("metadata key " ++ quote k.name ++ " invalid UUID: " ++ e))

/-- `metadata.MetaDecimal` -/
def metaDecimal (T : Text) (m : Metadata) (k : MetaKey) : Except Err Decimal :=
  match m k with
  | none => .error (.plain ("missing metadata key " ++ quote k.name))
  | some (.str s) =>
    match T.newFromString s with
    | .ok d => .ok d
    | .error e => .error (.plain ("metadata key " ++ quote k.name ++ " invalid decimal: " ++ e))
  | some (.float64 d) => .ok d
  | some (.int n) => .ok n
  | some (.int64 n) => .ok n
  | some v => .error (.plain ("metadata key " ++ quote k.name ++ " unsupported type " ++ v.goType))

end Seev.Ledger
