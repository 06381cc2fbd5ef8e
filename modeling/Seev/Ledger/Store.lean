import Mathlib.Data.List.AList
import Mathlib.Data.List.Sort
import Seev.Ledger.Basic

/-!
# Tables of the ledger database

The rows the posting path reads and writes, with the checks the schema makes on
them. `Db` is one committed state. The accounts, the FX position limits and the
configuration are fixed over a run and live in `Env`.
-/

namespace Seev.Ledger

open Lib

/-! ## Accounts -/

/-- Who owns an account. -/
inductive OwnerType where
  | user | merchant | system
  deriving DecidableEq, Repr

/-- What an account is for. -/
inductive AccountType where
  | cash | hold | pending | fee | settlement | escrow | pocket | adjustment
  | chargeback | frozen | confiscated | suspense | fxConversion | interestExpense
  | accruedInterestPayable
  deriving DecidableEq, Repr

/-- As the column has it. -/
def AccountType.name : AccountType → String
  | cash => "cash"
  | hold => "hold"
  | pending => "pending"
  | fee => "fee"
  | settlement => "settlement"
  | escrow => "escrow"
  | pocket => "pocket"
  | adjustment => "adjustment"
  | chargeback => "chargeback"
  | frozen => "frozen"
  | confiscated => "confiscated"
  | suspense => "suspense"
  | fxConversion => "fx_conversion"
  | interestExpense => "interest_expense"
  | accruedInterestPayable => "accrued_interest_payable"

/-- The status of an account. -/
inductive AccountStatus where
  | active | inactive | closed | suspended
  deriving DecidableEq, Repr

/-- As the column has it. -/
def AccountStatus.name : AccountStatus → String
  | active => "active"
  | inactive => "inactive"
  | closed => "closed"
  | suspended => "suspended"

/-- An `accounts` row with the `allow_negative` flag of its `account_balances`
row; both are written once, at provisioning. -/
structure AccountRow where
  id : UUID
  ownerType : OwnerType
  ownerID : UUID
  type : AccountType
  currency : Currency
  pocketCode : Option String
  systemQualifier : Option String
  status : AccountStatus
  allowNegative : Bool
  deriving DecidableEq, Repr

/-- The `accounts` table: `id` is its primary key. -/
structure AccountTable where
  rows : List AccountRow
  nodup : (rows.map AccountRow.id).Nodup

namespace AccountTable

/-- `WHERE id = $1` -/
def byID (A : AccountTable) (id : UUID) : Option AccountRow := A.rows.find? (·.id = id)

theorem byID_id {A : AccountTable} {id : UUID} {r : AccountRow} (h : A.byID id = some r) :
    r.id = id := by
  simpa using List.find?_some h

theorem mem_of_byID {A : AccountTable} {id : UUID} {r : AccountRow} (h : A.byID id = some r) :
    r ∈ A.rows := List.mem_of_find?_eq_some h

theorem byID_of_mem {A : AccountTable} {r : AccountRow} (h : r ∈ A.rows) :
    A.byID r.id = some r := by
  rcases A with ⟨rows, nd⟩
  induction rows with
  | nil => cases h
  | cons x xs ih =>
    simp only [List.map_cons, List.nodup_cons, List.mem_map, not_exists, not_and] at nd
    simp only [byID, List.find?_cons]
    rcases List.mem_cons.1 h with rfl | hx
    · simp
    · have hne : ¬ x.id = r.id := fun he => nd.1 r hx he.symm
      simpa [hne, byID] using ih nd.2 hx

end AccountTable

/-- A row of `account_balances` joined with its account, as `LockBalances` and
`GetAccountFlags` scan it. -/
structure AccountBalance where
  accountID : UUID
  currency : Currency
  balance : Decimal
  status : AccountStatus
  type : AccountType
  allowNegative : Bool
  deriving DecidableEq, Repr

/-- The balance map handed to a processor. -/
abbrev Balances := UUID → Option AccountBalance

/-! ## Transactions -/

/-- The transaction types of the registry; `other` is any type it does not have. -/
inductive TxType where
  | moneyIn | moneyOut
  | withdrawInitiate | withdrawPending | withdrawSettle | withdrawCancel
  | withdrawPendingSettle | withdrawPendingCancel
  | transferP2P | transferPocket | merchantTransfer
  | merchantPayinCredit | merchantPayoutHold | merchantPayoutSettle | merchantPayoutCancel
  | refund | feeCollect | chargeback
  | escrowHold | escrowRelease | escrowRefund
  | freezeInitiate | freezeRelease | freezeConfiscate
  | adjustmentCredit | adjustmentDebit | adjustmentSuspenseCredit | adjustmentSuspenseDebit
  | fxRebalanceCredit | fxRebalanceDebit | fxOut | fxIn
  | disbursement
  | interestAccrue | interestLiabilityAccrue | interestCapitalize | interestAdjustment
  | reversal
  | other (name : String)
  deriving DecidableEq, Repr

/-- As the column has it. -/
def TxType.name : TxType → String
  | moneyIn => "money_in"
  | moneyOut => "money_out"
  | withdrawInitiate => "withdraw_initiate"
  | withdrawPending => "withdraw_pending"
  | withdrawSettle => "withdraw_settle"
  | withdrawCancel => "withdraw_cancel"
  | withdrawPendingSettle => "withdraw_pending_settle"
  | withdrawPendingCancel => "withdraw_pending_cancel"
  | transferP2P => "transfer_p2p"
  | transferPocket => "transfer_pocket"
  | merchantTransfer => "merchant_transfer"
  | merchantPayinCredit => "merchant_payin_credit"
  | merchantPayoutHold => "merchant_payout_hold"
  | merchantPayoutSettle => "merchant_payout_settle"
  | merchantPayoutCancel => "merchant_payout_cancel"
  | refund => "refund"
  | feeCollect => "fee_collect"
  | chargeback => "chargeback"
  | escrowHold => "escrow_hold"
  | escrowRelease => "escrow_release"
  | escrowRefund => "escrow_refund"
  | freezeInitiate => "freeze_initiate"
  | freezeRelease => "freeze_release"
  | freezeConfiscate => "freeze_confiscate"
  | adjustmentCredit => "adjustment_credit"
  | adjustmentDebit => "adjustment_debit"
  | adjustmentSuspenseCredit => "adjustment_suspense_credit"
  | adjustmentSuspenseDebit => "adjustment_suspense_debit"
  | fxRebalanceCredit => "fx_rebalance_credit"
  | fxRebalanceDebit => "fx_rebalance_debit"
  | fxOut => "fx_out"
  | fxIn => "fx_in"
  | disbursement => "disbursement"
  | interestAccrue => "interest_accrue"
  | interestLiabilityAccrue => "interest_liability_accrue"
  | interestCapitalize => "interest_capitalize"
  | interestAdjustment => "interest_adjustment"
  | reversal => "reversal"
  | other name => name

/-- The status of a transaction. -/
inductive TxStatus where
  | pending | posted | failed | reversed
  deriving DecidableEq, Repr

/-- As the column has it. -/
def TxStatus.name : TxStatus → String
  | pending => "pending"
  | posted => "posted"
  | failed => "failed"
  | reversed => "reversed"

/-- Why a transaction takes no further closing. -/
inductive CloseReason where
  | reversed | settled | cancelled | released | refunded
  deriving DecidableEq, Repr

/-- What the digests work on. -/
abbrev Bytes := List UInt8

/-- `[]byte(s)` -/
def utf8 (s : String) : Bytes := s.toUTF8.toList

/-- A `ledger_transactions` row, without its primary key and timestamps. -/
structure TxRow where
  idempotencyKey : Option String
  idempotencyScope : Option String
  type : TxType
  status : TxStatus
  amount : ℤ
  currency : Currency
  sourceAccountID : Option UUID
  destinationAccountID : Option UUID
  externalRef : Option String
  gateway : Option String
  requestID : Option String
  idempotencyKeyDigest : Option Bytes
  idempotencyKeyVersion : Option ℕ
  conflictFingerprint : Option Bytes
  errorMessage : Option String
  closedByTxID : Option UUID
  closedReason : Option CloseReason
  deriving DecidableEq, Repr

/-- An in-memory debit or credit instruction of `BuildEntries`. -/
structure EntryInstruction where
  accountID : UUID
  direction : Direction
  amount : Decimal
  note : String
  deriving DecidableEq, Repr

/-- The movement that an instruction asks for. -/
def EntryInstruction.posting (e : EntryInstruction) : Posting UUID ℚ :=
  ⟨e.accountID, e.direction, e.amount⟩

/-- A `ledger_entries` row, without its timestamp. -/
structure LedgerEntry where
  id : UUID
  transactionID : UUID
  accountID : UUID
  direction : Direction
  amount : ℤ
  balanceAfter : ℤ
  note : String
  deriving DecidableEq, Repr

/-- The movement that an entry records. -/
def LedgerEntry.posting (e : LedgerEntry) : Posting UUID ℤ := ⟨e.accountID, e.direction, e.amount⟩

/-! ## Fee quotes, FX limits, outbox -/

/-- `consumed_by_ref` with the `consumed_by_type` its text form determines. -/
inductive QuoteRef where
  | payin (id : UUID)
  | payout (id : UUID)
  | tx (id : UUID)
  | legacy (ref : String)
  deriving DecidableEq, Repr

/-- A `fee_quotes` row, without its primary key. -/
structure FeeQuote where
  userID : UUID
  transactionType : TxType
  gateway : String
  currency : Currency
  amount : ℤ
  feeAmount : ℤ
  feeGateway : String
  expiresAt : ℕ
  consumedAt : Option ℕ
  consumedBy : Option QuoteRef
  deriving DecidableEq, Repr

/-- A row of `fx_position_limits` joined with its pair. -/
structure FxLimit where
  positionQualifier : String
  pairDisabled : Bool
  currency : Currency
  minimumBalance : ℤ
  maximumBalance : ℤ
  deriving DecidableEq, Repr

/-- The payload of `ledger.transaction.posted.v1`, without its event id and time. -/
structure TransactionPosted where
  transactionID : UUID
  transactionType : TxType
  amount : Decimal
  currency : Currency
  source : Option UUID
  destination : Option UUID
  entries : List (Posting UUID ℚ)
  externalRef : String
  userID : Option UUID
  targetUserID : Option UUID
  requestID : String
  merchantTenantID : Option UUID
  totalDebit : Option Decimal
  feeAmount : Option Decimal
  feeGateway : Option String
  feeApplication : Option String
  feeQuoteID : Option UUID
  payinID : Option UUID
  deriving DecidableEq, Repr

/-- The events of the ledger. -/
inductive OutboxEvent where
  | transactionPosted (aggregateID : UUID) (payload : TransactionPosted)
  | transactionReversed (aggregateID reversalID originalID : UUID) (amount : Decimal)
      (currency : Currency)
  deriving DecidableEq, Repr

/-! ## The database and its environment -/

/-- A committed state of the ledger database. -/
structure Db where
  /-- `account_balances.balance` -/
  balances : UUID → Option ℤ
  /-- `ledger_transactions`, by primary key -/
  txs : AList (fun _ : UUID => TxRow)
  /-- `ledger_entries`, oldest first -/
  entries : List LedgerEntry
  /-- `fee_quotes`, by primary key -/
  quotes : UUID → Option FeeQuote
  /-- `outbox_events`, oldest first -/
  outbox : List OutboxEvent

/-- The HMAC keys of the service, by version, and the version in use. -/
structure DigestRing where
  keys : ℕ → Option Bytes
  current : ℕ

/-- The operations that a currency is enabled for. -/
inductive CurrencyOperation where
  | topup | payout | transfer
  deriving DecidableEq, Repr

/-- What does not change over a run: configuration, accounts and limits, and the
functions of packages outside the repository. -/
structure Env where
  text : Text
  accounts : AccountTable
  fxLimits : List FxLimit
  /-- the ids `identifiers.NewV7` draws for the entries of a transaction -/
  entryID : UUID → ℕ → UUID
  hmac : Bytes → Bytes → Bytes
  sha256 : Bytes → Bytes
  ring : DigestRing
  /-- `currency.IsValid`: the code is in the registry -/
  isValidCurrency : String → Bool
  maxAmountPerTx : Decimal
  /-- a fee policy is configured -/
  feePolicy : Bool
  /-- the currency validator on an operation and its in-flight flag, `none` when it allows it -/
  validateCurrency : Currency → CurrencyOperation → Bool → Option Err

end Seev.Ledger
