import Seev.Ledger.Registry

/-!
# `Service.Handle`

The part of `Handle` before the database transaction (`prepare`), and the pure
steps of `execTransfer`: the gate on duplicates, the two quote checks, the
structural checks and the computation of the new balances. The transaction that
strings them together is `Session` in `Seev.Ledger.World`.
-/

namespace Seev.Ledger

open Lib

/-! ## Before the transaction -/

/-- `deduplicate`: the first occurrence of each id stays, in order. -/
def deduplicate : List UUID → List UUID → List UUID
  | _, [] => []
  | seen, id :: ids =>
    if id ∈ seen then deduplicate seen ids else id :: deduplicate (id :: seen) ids

/-- `currency.Normalize`, which returns its argument or an error. -/
def normalizeCurrency (E : Env) (c : Currency) : Except Err Unit :=
  if !validateCode c then
    .error (.of .currencyInvalid
      "currency: invalid currency: code must contain exactly three uppercase ASCII letters")
  else if !E.isValidCurrency c then .error (.of .currencyInvalid ("currency: unknown currency: " ++ c))
  else .ok ()

/-- The checks of `Handle` on the command alone. -/
def checkCommand (E : Env) (cmd : Command) : Except Err Unit := do
  if trimSpace cmd.idempotencyKey = "" then throw (.bare .emptyIdempotencyKey)
  if cmd.currency ≠ "" then normalizeCurrency E cmd.currency
  if !cmd.amount.isInteger then
    throw (.of .validation ("amount must be an integer (minor units), got "
      ++ E.text.decimalString cmd.amount))
  if Decimal.maxInt64 < cmd.amount ∨ cmd.amount < Decimal.minInt64 then
    throw (.of .moneyOverflow ("amount " ++ E.text.decimalString cmd.amount
      ++ " is outside signed 64-bit minor-unit range"))
  if 0 < E.maxAmountPerTx ∧ E.maxAmountPerTx < cmd.amount then
    throw (.of .amountTooLarge ("amount " ++ E.text.decimalString cmd.amount ++ " exceeds maximum "
      ++ E.text.decimalString E.maxAmountPerTx))

/-- `cmd.Metadata["fee_amount"], cmd.Metadata["fee_gateway"] = ...` -/
def Metadata.withFee (E : Env) (m : Metadata) (q : FeeQuote) : Metadata :=
  (m.set .feeAmount (.str (E.text.decimalString q.feeAmount))).set .feeGateway (.str q.feeGateway)

/-- The quote peek: the fee of a valid quote goes into the metadata. -/
def peekQuote (E : Env) (db : Db) (now : ℕ) (cmd : Command) : Command :=
  if cmd.quoteID ≠ "" ∧ E.feePolicy then
    match E.text.parseUUID cmd.quoteID with
    | .error _ => cmd
    | .ok quoteID =>
      match getQuote db now quoteID cmd.userID with
      | none => cmd
      | some q => { cmd with metadata := cmd.metadata.withFee E q }
  else cmd

/-- `Handle` up to the call of `transfer`. -/
def prepare (E : Env) (db : Db) (now : ℕ) (cmd : Command) : Except Err ResolvedCommand := do
  checkCommand E cmd
  let p ← registry E cmd.type
  let cmd := peekQuote E db now cmd
  inContext "validate command" (p.validateCommand cmd)
  let (resolved, c) ← inContext "resolve accounts" (p.resolveAccounts db cmd)
  let c := trimSpace c
  let requested := trimSpace cmd.currency
  if requested ≠ "" ∧ requested ≠ c then
    throw (.of .currencyMismatch ("command expects " ++ requested ++ ", resolved accounts use " ++ c))
  if resolved.source ≠ UUID.nil ∧ resolved.source ∉ resolved.ordered then
    throw (.plain ("processor " ++ quote cmd.type.name ++ ": resolved Source "
      ++ E.text.uuidString resolved.source ++ " is not in Ordered accounts"))
  if resolved.destination ≠ UUID.nil ∧ resolved.destination ∉ resolved.ordered then
    throw (.plain ("processor " ++ quote cmd.type.name ++ ": resolved Destination "
      ++ E.text.uuidString resolved.destination ++ " is not in Ordered accounts"))
  return { cmd with
    currency := c, accountIDs := deduplicate [] resolved.ordered
    source := resolved.source, destination := resolved.destination }

/-! ## The idempotency gate -/

def insertParams (rc : ResolvedCommand) (txID : UUID) : InsertTransactionParams where
  id := txID
  idempotencyKey := rc.idempotencyKey
  idempotencyScope := stringPtr rc.idempotencyScope
  type := rc.type
  amount := rc.amount
  currency := rc.currency
  sourceAccountID := uuidPtr rc.source
  destinationAccountID := uuidPtr rc.destination
  externalRef := stringPtr (metaStringD rc.metadata .externalRef)
  gateway := stringPtr (metaStringD rc.metadata .gateway)
  requestID := stringPtr (metaStringD rc.metadata .requestID)

/-- `handleDuplicate` -/
def handleDuplicate (E : Env) (db : Db) (rc : ResolvedCommand) : Err :=
  match findConflictOrDuplicate E db.txs rc.idempotencyKey (stringPtr rc.idempotencyScope) rc.type
      rc.amount rc.currency with
  | none => .plain "idempotency record vanished after duplicate error (race)"
  | some (_, true) => .bare .idempotencyConflict
  | some (.posted, false) => .bare .alreadyPosted
  | some (.failed, false) => .bare .previousFailed
  | some (_, false) => .bare .stillProcessing

/-- `currencyPolicyBusinessError` -/
def currencyPolicyBusinessError (e : Err) : Err :=
  match e.sentinel with
  | some .currencyDisabled => .newBizErr .currencyDisabled e.text
  | some .currencyOperationDisabled => .newBizErr .currencyOperationDisabled e.text
  | some .currencyNotEnabled => .newBizErr .currencyNotEnabled e.text
  | some .currencyLimitExceeded => .newBizErr .currencyLimitExceeded e.text
  | _ => e

/-- The currency validator on the command's operation. -/
def checkCurrencyPolicy (E : Env) (rc : ResolvedCommand) : Except Err Unit :=
  match currencyOperation rc.type rc.metadata with
  | none => .ok ()
  | some (op, inflight) =>
    match E.validateCurrency rc.currency op inflight with
    | none => .ok ()
    | some e => .error (currencyPolicyBusinessError e)

/-- Step 1: the header row, or why the attempt rolls back. -/
def insertHeader (E : Env) (db : Db) (rc : ResolvedCommand) (txID : UUID) : Except Err TxRow :=
  match insertTx E db.txs (insertParams rc txID) with
  | .error (.other e) => .error (.wrap "insert tx header" e)
  | .error .duplicateKey => .error (handleDuplicate E db rc)
  | .ok row => do
    checkCurrencyPolicy E rc
    return row

/-! ## Fee quotes -/

/-- Step 1b: the consumed quote, `none` for a command without one. A nil fee policy is
dereferenced. -/
def consumeFeeQuote (E : Env) (db : Db) (now : ℕ) (rc : ResolvedCommand) (txID : UUID) :
    Except Err (Option (UUID × FeeQuote)) :=
  if rc.quoteID = "" then .ok none
  else match E.text.parseUUID rc.quoteID with
    | .error _ => .error (.newBizErr .quoteMismatch "quote_id is not a valid UUID")
    | .ok quoteID =>
      if !E.feePolicy then
        .error { sentinel := none, text := "nil pointer dereference", panics := true }
      else do
        let q ← consumeQuote db now quoteID rc.userID rc.type rc.currency rc.amount (.tx txID)
        return some (quoteID, q)

/-- A top-up whose metadata has a `fee_quote_id`. -/
def checkQuotedTopup (E : Env) (db : Db) (rc : ResolvedCommand) : Except Err Unit := do
  if (rc.metadata .payinID).isNone then
    throw (.newBizErr .quoteMismatch "top-up fee snapshot is missing payin_id")
  match metaUUID E.text rc.metadata .payinID, metaUUID E.text rc.metadata .feeQuoteID with
  | .ok payinID, .ok quoteID =>
    match metaDecimal E.text rc.metadata .feeAmount with
    | .error _ => throw (.newBizErr .quoteMismatch "top-up fee snapshot has an invalid fee amount")
    | .ok fee =>
      if fee < 0 ∨ !fee.isInteger then
        throw (.newBizErr .quoteMismatch "top-up fee snapshot has an invalid fee amount")
      if metaStringD rc.metadata .feeApplication ≠ "added_on_top" then
        throw (.newBizErr .quoteMismatch "top-up fee snapshot must use added_on_top")
      match metaDecimal E.text rc.metadata .totalDebit with
      | .error _ =>
        throw (.newBizErr .quoteMismatch "top-up total_debit does not match the quoted principal and fee")
      | .ok totalDebit =>
        if totalDebit ≠ rc.amount + fee then
          throw (.newBizErr .quoteMismatch
            "top-up total_debit does not match the quoted principal and fee")
        let feeGateway := metaStringD rc.metadata .feeGateway
        if 0 < fee ∧ feeGateway = "" then
          throw (.newBizErr .quoteMismatch "top-up fee snapshot has no fee gateway")
        if !E.feePolicy then
          throw (.newBizErr .quoteMismatch "Ledger fee quote validation is unavailable")
        if !validateConsumedPayinQuote db quoteID rc.userID rc.type
            (metaStringD rc.metadata .gateway) rc.currency rc.amount fee feeGateway payinID then
          throw (.newBizErr .quoteMismatch "top-up fee quote settlement snapshot does not match")
  | _, _ =>
    throw (.newBizErr .quoteMismatch
      "top-up fee snapshot must include valid payin_id and fee_quote_id")

/-- The top-up check of `execTransfer`, on `money_in` only. -/
def checkTopupQuote (E : Env) (db : Db) (rc : ResolvedCommand) : Except Err Unit :=
  if rc.type ≠ .moneyIn then .ok ()
  else if (rc.metadata .feeQuoteID).isSome then checkQuotedTopup E db rc
  else if (rc.metadata .payinID).isSome then
    match metaDecimal E.text rc.metadata .feeAmount with
    | .ok fee =>
      if 0 < fee then
        .error (.newBizErr .quoteMismatch "top-up fee snapshot is missing fee_quote_id")
      else .ok ()
    | .error _ => .ok ()
  else .ok ()

/-! ## Accounts and balances -/

/-- `validateAccounts` on one account. -/
def validateAccount (E : Env) (c : Currency) (bal : Balances) (id : UUID) : Except Err Unit :=
  match bal id with
  | none => .error (.of .accountNotFound (E.text.uuidString id ++ " (missing account_balances row)"))
  | some ab =>
    match ab.status with
    | .suspended => .error (.of .accountSuspended (E.text.uuidString id))
    | .closed => .error (.of .accountClosed (E.text.uuidString id))
    | .inactive =>
      .error (.of .validation ("unknown status " ++ quote ab.status.name ++ " on account "
        ++ E.text.uuidString id))
    | .active =>
      if ab.currency ≠ c then
        .error (.of .currencyMismatch ("account " ++ E.text.uuidString id ++ " has " ++ ab.currency
          ++ ", tx expects " ++ c))
      else .ok ()

/-- `validateAccounts` -/
def validateAccounts (E : Env) (rc : ResolvedCommand) (bal : Balances) : Except Err Unit :=
  rc.accountIDs.forM (validateAccount E rc.currency bal)

/-- One entry on a map of balances or deltas; an absent account counts as zero. -/
def applyEntry (m : AmountMap) (e : EntryInstruction) : AmountMap :=
  m.insert e.accountID ((m.lookup e.accountID).getD 0 + e.posting.signed)

/-- `applyEntries` -/
def applyEntries (balances : List AccountBalance) (entries : List EntryInstruction) : AmountMap :=
  entries.foldl applyEntry (balances.foldl (fun m ab => m.insert ab.accountID ab.balance) ∅)

/-- `splitEntriesByAccount`: user entries, then system entries. -/
def splitEntriesByAccount (entries : List EntryInstruction) (systemIDs : List UUID) :
    List EntryInstruction × List EntryInstruction :=
  entries.partition fun e => e.accountID ∉ systemIDs

/-- `computeSystemDeltas` -/
def computeSystemDeltas (systemEntries : List EntryInstruction) : AmountMap :=
  systemEntries.foldl applyEntry ∅

/-- `validateBalanced` -/
def validateBalanced (E : Env) (entries : List EntryInstruction) : Except Err Unit :=
  match entries.find? fun e => e.amount ≤ 0 with
  | some e =>
    .error (.of .validation ("entry amount must be positive, got " ++ E.text.decimalString e.amount))
  | none =>
    let totalD := total .debit (entries.map EntryInstruction.posting)
    let totalC := total .credit (entries.map EntryInstruction.posting)
    if totalD ≠ totalC then
      .error (.of .unbalancedEntries ("constant.Debit=" ++ E.text.decimalString totalD
        ++ " constant.Credit=" ++ E.text.decimalString totalC))
    else .ok ()

end Seev.Ledger
