import Seev.Ledger.Store

/-!
# Repository queries of the posting path

Each definition is one statement (or one repository method) on the database the
transaction sees: the committed state with the transaction's own writes on top.
Statements that write return the new row versions; the caller keeps them with
the transaction until it commits.
-/

namespace Seev.Ledger

open Lib

/-! ## `AccountRepository`

The positive lookup caches are left out: the rows they hold do not change over a
run. -/

/-- `ORDER BY CASE WHEN currency = 'IDR' THEN 0 ELSE 1 END, currency LIMIT 1` -/
def firstByCurrency (rows : List AccountRow) : Option AccountRow :=
  rows.foldl (fun best r =>
    match best with
    | none => some r
    | some b =>
      if (r.currency = "IDR" ∧ b.currency ≠ "IDR") ∨
          ((r.currency = "IDR" ↔ b.currency = "IDR") ∧ r.currency < b.currency) then some r
      else best) none

/-- The id of the row a lookup found, `ACCOUNT_NOT_FOUND` when it found none. -/
def foundAccount (what : String) : Option AccountRow → Except Err UUID
  | some r => .ok r.id
  | none => .error (.of .accountNotFound what)

section Accounts

variable (E : Env)

/-- The active accounts of one owner and type outside pockets. -/
def ownerAccounts (owner : OwnerType) (ownerID : UUID) (t : AccountType) : List AccountRow :=
  E.accounts.rows.filter fun r =>
    r.ownerType = owner ∧ r.ownerID = ownerID ∧ r.type = t ∧ r.pocketCode = none ∧ r.status = .active

/-- How the lookup errors name an owner and an account type. -/
def ownerText (owner : OwnerType) (ownerID : UUID) (t : AccountType) : String :=
  (match owner with
    | .user => "user "
    | .merchant => "merchant tenant "
    | .system => "system ") ++ E.text.uuidString ownerID ++ " type " ++ t.name

/-- `GetAccountID` and `GetMerchantAccountID`, by owner type. -/
def getAccountID (owner : OwnerType) (ownerID : UUID) (t : AccountType) : Except Err UUID :=
  foundAccount (ownerText E owner ownerID t) (firstByCurrency (ownerAccounts E owner ownerID t))

/-- `GetAccountIDByCurrency` and `GetMerchantAccountIDByCurrency`, by owner type. -/
def getAccountIDByCurrency (owner : OwnerType) (ownerID : UUID) (t : AccountType) (c : Currency) :
    Except Err UUID :=
  foundAccount (ownerText E owner ownerID t ++ " currency " ++ c)
    ((ownerAccounts E owner ownerID t).find? (·.currency = c))

/-- `userAccountID` and `merchantAccountID`: constrained to the currency when the
command has one. -/
def ownerAccountID (owner : OwnerType) (ownerID : UUID) (t : AccountType) (c : Currency) :
    Except Err UUID :=
  if c ≠ "" then getAccountIDByCurrency E owner ownerID t c else getAccountID E owner ownerID t

/-- The account of a user. -/
def userAccountID (userID : UUID) (t : AccountType) (c : Currency) : Except Err UUID :=
  ownerAccountID E .user userID t c

/-- The account of a merchant. -/
def merchantAccountID (tenantID : UUID) (t : AccountType) (c : Currency) : Except Err UUID :=
  ownerAccountID E .merchant tenantID t c

/-- `userPocketAccountID`: `GetPocketAccountID` or `GetPocketAccountIDByCurrency`. -/
def userPocketAccountID (userID : UUID) (pocketCode : String) (c : Currency) : Except Err UUID :=
  foundAccount ("user " ++ E.text.uuidString userID ++ " pocket " ++ quote pocketCode
      ++ if c = "" then "" else " currency " ++ c)
    (E.accounts.rows.find? fun r =>
      r.ownerType = .user ∧ r.ownerID = userID ∧ r.type = .pocket ∧ r.pocketCode = some pocketCode ∧
        r.status = .active ∧ (c = "" ∨ r.currency = c))

/-- `GetAccountCurrency` -/
def getAccountCurrency (id : UUID) : Except Err Currency :=
  match E.accounts.byID id with
  | some r => .ok r.currency
  | none => .error (.of .accountNotFound (E.text.uuidString id))

/-- `GetSystemAccountID` -/
def getSystemAccountID (t : AccountType) (qualifier : String) (c : Currency) : Except Err UUID :=
  foundAccount ("system account type " ++ t.name ++ " qualifier " ++ quote qualifier ++ " currency "
      ++ quote c)
    (E.accounts.rows.find? fun r =>
      r.ownerType = .system ∧ r.type = t ∧ r.systemQualifier.getD "" = qualifier ∧ r.currency = c)

end Accounts

/-! ## `BalanceRepository` -/

/-- One row of `account_balances ab JOIN accounts a`. -/
def accountBalance (E : Env) (db : Db) (id : UUID) : Option AccountBalance := do
  let r ← E.accounts.byID id
  let b ← db.balances id
  return ⟨id, r.currency, b, r.status, r.type, r.allowNegative⟩

/-- `GetAccountFlags` (unlocked) and `LockBalances` (`FOR UPDATE`) scan the same rows. -/
def getAccountFlags (E : Env) (db : Db) (ids : List UUID) : List AccountBalance :=
  ids.filterMap (accountBalance E db)

/-- The row of account `id` in a scanned map. -/
def lookupBalance (rows : List AccountBalance) (id : UUID) : Option AccountBalance :=
  rows.find? (·.accountID = id)

/-- The checks of the table on a new balance: `BIGINT`, and
`CHECK (allow_negative OR balance >= 0)`. -/
def balanceAllowed (E : Env) (id : UUID) (b : ℤ) : Bool :=
  Decimal.inInt64 b &&
    match E.accounts.byID id with
    | some r => r.allowNegative || decide (0 ≤ b)
    | none => false

/-- A map from account to amount, as Go's `map[uuid.UUID]decimal.Decimal`. -/
abbrev AmountMap := AList (fun _ : UUID => Decimal)

/-- `sortedDecimalKeys`, with the values: ascending by id. -/
def sortedEntries (m : AmountMap) : List (Σ _ : UUID, Decimal) :=
  m.entries.insertionSort fun a b => a.1 ≤ b.1

/-- The `UPDATE`s of `ApplySystemDeltas`, one account after the other. -/
def systemDeltaRows (E : Env) (db : Db) :
    List (Σ _ : UUID, Decimal) → Except Err (List (UUID × ℤ))
  | [] => .ok []
  | ⟨id, delta⟩ :: rest => do
    if !delta.isInteger then
      throw (.plain ("apply system delta: internal invariant violated: non-integral delta for account "
        ++ E.text.uuidString id ++ ": " ++ E.text.decimalString delta))
    match db.balances id with
    | none => throw (.of .accountNotFound (E.text.uuidString id))
    | some b =>
      if !balanceAllowed E id (b + delta.intPart) then
        throw (.plain ("apply system delta for " ++ E.text.uuidString id))
      let tail ← systemDeltaRows E db rest
      return (id, b + delta.intPart) :: tail

/-- `ApplySystemDeltas`: `balance = balance + delta` on each row, returning the new
balances. -/
def applySystemDeltas (E : Env) (db : Db) (deltas : AmountMap) : Except Err (List (UUID × ℤ)) :=
  systemDeltaRows E db (sortedEntries deltas)

/-- `UpdateBalances`: one statement with absolute values. Every balance must be
integral before it runs, and it must touch every row. -/
def updateBalances (E : Env) (db : Db) (newBalances : AmountMap) : Except Err (List (UUID × ℤ)) :=
  let rows := sortedEntries newBalances
  match rows.find? fun r => !r.2.isInteger with
  | some r =>
    .error (.plain ("update balances: internal invariant violated: non-integral balance for account "
      ++ E.text.uuidString r.1 ++ ": " ++ E.text.decimalString r.2))
  | none =>
    let touched := rows.filter fun r => (db.balances r.1).isSome
    if touched.any fun r => !balanceAllowed E r.1 r.2.intPart then .error (.plain "update balances")
    else if touched.length ≠ rows.length then
      .error (.plain ("balance update: expected " ++ toString rows.length ++ " rows, got "
        ++ toString touched.length))
    else .ok (rows.map fun r => (r.1, r.2.intPart))

/-! ## `EntryRepository` -/

/-- The entries of one statement. -/
def maxEntriesBatch : ℕ := 50

/-- The casts and the sign check of `fn_post_ledger_entries_bulk` on one element. -/
def postingEntry (txID : UUID) (newBalances : UUID → Option Decimal) (id : UUID)
    (e : EntryInstruction) : Except Err LedgerEntry :=
  match e.amount.toBigint, ((newBalances e.accountID).getD 0).toBigint with
  | some amount, some balanceAfter =>
    if amount ≤ 0 then .error (.plain "ledger posting: amount must be positive")
    else .ok ⟨id, txID, e.accountID, e.direction, amount, balanceAfter, e.note⟩
  | _, _ => .error (.plain "invalid input for type bigint")

/-- The account exists and has the transaction's currency. -/
def entryAccountOK (E : Env) (c : Currency) (r : LedgerEntry) : Bool :=
  decide ((E.accounts.byID r.accountID).map AccountRow.currency = some c)

/-- `fn_post_ledger_entries_bulk`: every element is checked, then the balance of the
batch, and only then the rows are inserted, where the table's own constraints apply. -/
def postLedgerEntriesBulk (E : Env) (db : Db) (c : Currency) (txID : UUID)
    (entries : List EntryInstruction) (newBalances : UUID → Option Decimal) :
    Except Err (List LedgerEntry) := do
  if db.entries.any (·.transactionID = txID) then
    throw (.plain ("ledger posting: transaction " ++ E.text.uuidString txID
      ++ " already has ledger entries"))
  let rows ← entries.zipIdx.mapM fun e => postingEntry txID newBalances (E.entryID txID e.2) e.1
  let debit := total .debit (rows.map LedgerEntry.posting)
  let credit := total .credit (rows.map LedgerEntry.posting)
  if !(Decimal.inInt64 debit && Decimal.inInt64 credit) then throw (.plain "bigint out of range")
  if debit ≠ credit then
    throw (.plain ("ledger posting: transaction " ++ E.text.uuidString txID ++ " is not balanced (debit "
      ++ toString debit ++ ", credit " ++ toString credit ++ ")"))
  if !rows.all (entryAccountOK E c) then
    throw (.plain "ledger entry account currency must match transaction currency")
  -- UNIQUE (transaction_id, account_id, direction)
  if !decide ((rows.map fun r => (r.accountID, r.direction)).Nodup) then
    throw (.plain "duplicate key value violates unique constraint")
  return rows

/-- `InsertEntries`: the rows inserted for transaction `txID` of currency `c`. -/
def insertEntries (E : Env) (db : Db) (c : Currency) (txID : UUID) (entries : List EntryInstruction)
    (newBalances : UUID → Option Decimal) : Except Err (List LedgerEntry) :=
  if entries.isEmpty then .ok []
  else if maxEntriesBatch < entries.length then
    .error (.plain ("entries batch too large: " ++ toString entries.length ++ " > "
      ++ toString maxEntriesBatch))
  else inContext "post ledger entries" (postLedgerEntriesBulk E db c txID entries newBalances)

/-! ## `TransactionRepository` -/

/-- A 4-byte big-endian length before the bytes. -/
def lengthPrefixed (bs : Bytes) : Bytes :=
  let n := bs.length % 2 ^ 32
  [UInt8.ofNat (n / 2 ^ 24), UInt8.ofNat (n / 2 ^ 16), UInt8.ofNat (n / 2 ^ 8), UInt8.ofNat n] ++ bs

/-- What the digest of a key is taken of. -/
def canonicalIdempotencyInput (scope : Option String) (key : String) : Bytes :=
  lengthPrefixed (utf8 (scope.getD "")) ++ lengthPrefixed (utf8 key)

/-- `DigestRing.Digest` (a missing key is the empty one, as for a nil slice) -/
def DigestRing.digest (hmac : Bytes → Bytes → Bytes) (r : DigestRing) (input : Bytes) : Bytes × ℕ :=
  (hmac ((r.keys r.current).getD []) input, r.current)

/-- What tells a retry from another command under the same key. -/
def conflictFingerprint (E : Env) (t : TxType) (amount : Decimal) (c : Currency) : Bytes :=
  E.sha256 (lengthPrefixed (utf8 t.name) ++ lengthPrefixed (utf8 (E.text.decimalString amount)) ++
    lengthPrefixed (utf8 c))

/-- The columns of a new header. -/
structure InsertTransactionParams where
  id : UUID
  idempotencyKey : String
  idempotencyScope : Option String
  type : TxType
  amount : Decimal
  currency : Currency
  sourceAccountID : Option UUID
  destinationAccountID : Option UUID
  externalRef : Option String
  gateway : Option String
  requestID : Option String

/-- Why a header is not inserted. -/
inductive InsertError where
  /-- SQLSTATE 23505 -/
  | duplicateKey
  | other (e : Err)

/-- `fn_guard_ledger_transaction_currency` on one side of the header. -/
def headerAccountOK (E : Env) (c : Currency) : Option UUID → Bool
  | none => true
  | some id => decide ((E.accounts.byID id).map AccountRow.currency = some c)

/-- The row an `INSERT` of `p` would write. -/
def headerRow (E : Env) (p : InsertTransactionParams) (amount : ℤ) : TxRow :=
  let d := E.ring.digest E.hmac (canonicalIdempotencyInput p.idempotencyScope p.idempotencyKey)
  { idempotencyKey := some p.idempotencyKey, idempotencyScope := p.idempotencyScope
    type := p.type, status := .pending, amount := amount, currency := p.currency
    sourceAccountID := p.sourceAccountID, destinationAccountID := p.destinationAccountID
    externalRef := p.externalRef, gateway := p.gateway, requestID := p.requestID
    idempotencyKeyDigest := some d.1, idempotencyKeyVersion := some d.2
    conflictFingerprint := some (conflictFingerprint E p.type p.amount p.currency)
    errorMessage := none, closedByTxID := none, closedReason := none }

/-- `uq_ltx_idempotency` and `uq_ltx_idempotency_digest` hold both of two rows only
if this is false. A `NULL` key or digest takes part in no conflict. -/
def TxRow.conflicts (a b : TxRow) : Bool :=
  (a.idempotencyKey.isSome && decide (a.idempotencyKey = b.idempotencyKey) &&
    decide (a.idempotencyScope.getD "" = b.idempotencyScope.getD "")) ||
  (a.idempotencyKeyDigest.isSome && decide (a.idempotencyKeyDigest = b.idempotencyKeyDigest))

/-- `Insert`: the trigger, the column checks, then the unique indexes. -/
def insertTx (E : Env) (txs : AList (fun _ : UUID => TxRow)) (p : InsertTransactionParams) :
    Except InsertError TxRow :=
  if !(headerAccountOK E p.currency p.sourceAccountID &&
      headerAccountOK E p.currency p.destinationAccountID) then
    .error (.other (.of .currencyMismatch "account currency must match transaction currency"))
  else match p.amount.toBigint with
    | none => .error (.other (.plain "amount is not a bigint"))
    | some amount =>
      if amount ≤ 0 then .error (.other (.plain "ledger_transactions_amount_check"))
      else if p.id ∈ txs ∨ txs.entries.any (fun r => r.2.conflicts (headerRow E p amount)) then
        .error .duplicateKey
      else .ok (headerRow E p amount)

/-- `FindConflictOrDuplicate`: by the digest under the current key, then by the raw
key while it is still there. -/
def findConflictOrDuplicate (E : Env) (txs : AList (fun _ : UUID => TxRow)) (key : String)
    (scope : Option String) (t : TxType) (amount : Decimal) (c : Currency) : Option (TxStatus × Bool) :=
  let digest := (E.ring.digest E.hmac (canonicalIdempotencyInput scope key)).1
  let row := (txs.entries.find? fun r => r.2.idempotencyKeyDigest = some digest).or
    (txs.entries.find? fun r => r.2.idempotencyKey = some key ∧ r.2.idempotencyScope = scope)
  row.map fun r =>
    (r.2.status,
      match r.2.conflictFingerprint with
      | none => false
      | some f => !f.isEmpty && decide (f ≠ conflictFingerprint E t amount c))

/-- `GetHeader` -/
def getHeader (E : Env) (db : Db) (id : UUID) : Except Err TxRow :=
  match db.txs.lookup id with
  | some r => .ok r
  | none => .error (.of .originalNotFound (E.text.uuidString id))

/-- `GetEntries`: `ORDER BY id` -/
def getEntries (db : Db) (id : UUID) : List LedgerEntry :=
  (db.entries.filter (·.transactionID = id)).insertionSort fun a b => a.id ≤ b.id

/-- `GetAccountIDs`: `SELECT DISTINCT account_id`, which has no order of its own -/
def getAccountIDs (db : Db) (id : UUID) : List UUID :=
  ((db.entries.filter (·.transactionID = id)).map (·.accountID)).dedup

/-- The row `CloseOriginal` leaves behind. -/
def TxRow.close (r : TxRow) (byTxID : UUID) (reason : CloseReason) : TxRow :=
  { r with
    closedByTxID := some byTxID, closedReason := some reason
    status := if reason = .reversed then .reversed else r.status }

/-! ## Fee quotes -/

/-- `consumed_at IS NULL AND expires_at > now()` -/
def FeeQuote.open (q : FeeQuote) (now : ℕ) : Bool := q.consumedAt.isNone && decide (now < q.expiresAt)

/-- `GetQuote`: a read of a quote that is still valid. -/
def getQuote (db : Db) (now : ℕ) (quoteID userID : UUID) : Option FeeQuote :=
  match db.quotes quoteID with
  | some q => if q.userID = userID ∧ q.open now then some q else none
  | none => none

/-- The row after consumption. -/
def FeeQuote.consume (q : FeeQuote) (now : ℕ) (ref : QuoteRef) : FeeQuote :=
  { q with consumedAt := some (q.consumedAt.getD now), consumedBy := some ref }

/-- `TryConsumeQuote`: the updated row, `none` when no row satisfies the `WHERE`. -/
def tryConsumeQuote (db : Db) (now : ℕ) (quoteID userID : UUID) (t : TxType) (c : Currency)
    (amount : Decimal) (ref : QuoteRef) : Option FeeQuote :=
  match db.quotes quoteID with
  | some q =>
    if q.userID = userID ∧ q.transactionType = t ∧ q.currency = c ∧ (q.amount : ℚ) = amount ∧
        (q.open now ∨ q.consumedBy = some ref) then some (q.consume now ref)
    else none
  | none => none

/-- `ConsumeQuote`, with its errors as `execTransfer` returns them. -/
def consumeQuote (db : Db) (now : ℕ) (quoteID userID : UUID) (t : TxType) (c : Currency)
    (amount : Decimal) (ref : QuoteRef) : Except Err FeeQuote :=
  match tryConsumeQuote db now quoteID userID t c amount ref with
  | some q => .ok q
  | none =>
    if (getQuote db now quoteID userID).isSome then
      .error (.newBizErr .quoteMismatch "fee quote does not match this request")
    else .error (.newBizErr .quoteExpired "fee quote not found, expired, or already consumed")

/-- `ValidateConsumedPayinQuote` -/
def validateConsumedPayinQuote (db : Db) (quoteID userID : UUID) (t : TxType) (gateway : String)
    (c : Currency) (amount fee : Decimal) (feeGateway : String) (payinID : UUID) : Bool :=
  match db.quotes quoteID with
  | some q =>
    decide (q.userID = userID ∧ q.transactionType = t ∧ q.gateway = gateway ∧ q.currency = c ∧
      (q.amount : ℚ) = amount ∧ (q.feeAmount : ℚ) = fee ∧ q.feeGateway = feeGateway ∧
      q.consumedAt.isSome ∧ q.consumedBy = some (.payin payinID))
  | none => false

end Seev.Ledger
