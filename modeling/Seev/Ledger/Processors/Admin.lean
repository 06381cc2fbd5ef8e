import Seev.Ledger.Processors.Core

/-!
# Adjustments, FX, disbursements, interest and reversals

The back-office processors. `adjustment_*`, `adjustment_suspense_*` and
`fx_rebalance_*` come in mirrored pairs; `reversal` swaps the entries of an
original it looks up itself.
-/

namespace Seev.Ledger

open Lib

variable (E : Env)

/-! ## Adjustments -/

/-- `system.adjustment → user.cash` -/
def adjustmentCredit : TxProcessor where
  validateCommand _ := .ok ()
  resolveAccounts _ cmd := do
    let cashID ← inContext "adjustment_credit: user cash" (userAccountID E cmd.userID .cash cmd.currency)
    let c ← inContext "adjustment_credit: currency" (getAccountCurrency E cashID)
    let adjID ← inContext "adjustment_credit: adjustment account" (getSystemAccountID E .adjustment "" c)
    return (twoLeg adjID cashID, c)
  validateBeforeBalanceLocks := none
  validate _ cmd _ := do
    requirePresent "adjustment_credit requires metadata 'authorized_by'" cmd.metadata .authorizedBy
    amountChecks E cmd
  buildEntries _ cmd _ :=
    movement ("adj credit reason=" ++ metaStringD cmd.metadata .reason ++ " ref="
      ++ metaStringD cmd.metadata .ticketRef) "" cmd
  outboxEvents cmd txID entries := [newPostedEvent E cmd txID entries]

/-- `user.cash → system.adjustment` -/
def adjustmentDebit : TxProcessor where
  validateCommand _ := .ok ()
  resolveAccounts _ cmd := do
    let cashID ← inContext "adjustment_debit: user cash" (userAccountID E cmd.userID .cash cmd.currency)
    let c ← inContext "adjustment_debit: currency" (getAccountCurrency E cashID)
    let adjID ← inContext "adjustment_debit: adjustment account" (getSystemAccountID E .adjustment "" c)
    return (twoLeg cashID adjID, c)
  validateBeforeBalanceLocks := none
  validate _ cmd bal := do
    requirePresent "adjustment_debit requires metadata 'authorized_by'" cmd.metadata .authorizedBy
    fundsChecks E cmd bal
  buildEntries _ cmd _ :=
    movement ("adj debit reason=" ++ metaStringD cmd.metadata .reason ++ " ref="
      ++ metaStringD cmd.metadata .ticketRef) "" cmd
  outboxEvents cmd txID entries := [newPostedEvent E cmd txID entries]

/-- The currency of a suspense adjustment: metadata, then the command, then `IDR`. -/
def suspenseCurrency (name : String) (cmd : Command) : Except Err Currency :=
  let m := metaStringD cmd.metadata .currency
  let c := if m ≠ "" then m else if cmd.currency ≠ "" then cmd.currency else "IDR"
  if cmd.currency ≠ "" ∧ c ≠ cmd.currency then
    .error (.of .currencyMismatch (name ++ " currency metadata does not match command currency"))
  else .ok c

/-- `system.adjustment → system.suspense[gateway]` -/
def adjustmentSuspenseCredit : TxProcessor where
  validateCommand _ := .ok ()
  resolveAccounts _ cmd := do
    let gateway ← requireGateway "adjustment_suspense_credit" cmd
    let c ← suspenseCurrency "adjustment_suspense_credit" cmd
    let adjID ← inContext "adjustment_suspense_credit: adjustment account"
      (getSystemAccountID E .adjustment "" c)
    let suspenseID ← inContext "adjustment_suspense_credit: suspense account"
      (getSystemAccountID E .suspense (suspenseQualifier gateway) c)
    return (twoLeg adjID suspenseID, c)
  validateBeforeBalanceLocks := none
  validate _ cmd _ := do
    requirePresent "adjustment_suspense_credit requires metadata 'authorized_by'" cmd.metadata
      .authorizedBy
    amountChecks E cmd
  buildEntries _ cmd _ :=
    movement ("suspense adj credit reason=" ++ metaStringD cmd.metadata .reason) "" cmd
  outboxEvents cmd txID entries := [newPostedEvent E cmd txID entries]

/-- `system.suspense[gateway] → system.adjustment` -/
def adjustmentSuspenseDebit : TxProcessor where
  validateCommand _ := .ok ()
  resolveAccounts _ cmd := do
    let gateway ← requireGateway "adjustment_suspense_debit" cmd
    let c ← suspenseCurrency "adjustment_suspense_debit" cmd
    let suspenseID ← inContext "adjustment_suspense_debit: suspense account"
      (getSystemAccountID E .suspense (suspenseQualifier gateway) c)
    let adjID ← inContext "adjustment_suspense_debit: adjustment account"
      (getSystemAccountID E .adjustment "" c)
    return (twoLeg suspenseID adjID, c)
  validateBeforeBalanceLocks := none
  validate _ cmd _ := do
    requirePresent "adjustment_suspense_debit requires metadata 'authorized_by'" cmd.metadata
      .authorizedBy
    amountChecks E cmd
  buildEntries _ cmd _ :=
    movement ("suspense adj debit reason=" ++ metaStringD cmd.metadata .reason) "" cmd
  outboxEvents cmd txID entries := [newPostedEvent E cmd txID entries]

/-! ## FX -/

/-- `currency.ValidateCode`: exactly three uppercase ASCII letters. -/
def validateCode (code : String) : Bool :=
  code.toList.length = 3 && code.toList.all fun ch => decide ('A' ≤ ch) && decide (ch ≤ 'Z')

/-- `fxRebalanceTarget`: the pair and the currency of a rebalance. -/
def fxRebalanceTarget (cmd : Command) : Except Err (String × Currency) := do
  let pair := metaStringD cmd.metadata .pair
  if trimSpace pair = "" then throw (.of .validation "FX rebalance requires metadata 'pair'")
  let code := metaStringD cmd.metadata .currency
  if trimSpace code = "" then throw (.of .validation "FX rebalance requires metadata 'currency'")
  let code := E.text.toUpper (trimSpace code)
  if !validateCode code then
    throw (.of .currencyInvalid "invalid currency: code must contain exactly three uppercase ASCII letters")
  if cmd.currency ≠ "" ∧ E.text.toUpper (trimSpace cmd.currency) ≠ code then
    throw (.of .currencyMismatch "command currency does not match rebalance currency")
  return (E.text.toUpper (trimSpace pair), code)

/-- The limit row of an enabled pair. -/
def fxLimit (pair : String) (c : Currency) : Except Err FxLimit :=
  match E.fxLimits.find? fun l => l.positionQualifier = pair ∧ ¬ l.pairDisabled ∧ l.currency = c with
  | some l => .ok l
  | none => .error (.of .fxPositionLimitExceeded ("no FX position limit for " ++ pair ++ "/" ++ c))

/-- `lockFXRebalancePositionLimit`: the position account, whose row it locks after the
limit row. `positionIndex` is what it derives from the type of the command. -/
def lockFXRebalancePositionLimit (positionIndex : ℕ) (db : Db) (cmd : ResolvedCommand) :
    Except Err UUID := do
  let (pair, code) ← fxRebalanceTarget E cmd.toCommand
  match cmd.accountIDs[positionIndex]? with
  | none => throw (.of .validation "FX rebalance position account is missing")
  | some positionID =>
    let l ← fxLimit E pair code
    if l.maximumBalance ≤ l.minimumBalance then
      throw (.of .fxPositionLimitExceeded ("invalid FX position limit for " ++ pair ++ "/" ++ code))
    if (db.balances positionID).isNone then
      throw (.of .accountNotFound ("FX position account " ++ E.text.uuidString positionID
        ++ " balance is missing"))
    return positionID

/-- `validateFXRebalancePosition` -/
def validateFXRebalancePosition (cmd : ResolvedCommand) (bal : Balances) (positionID : UUID)
    (increase : Bool) : Except Err Unit := do
  let (pair, code) ← fxRebalanceTarget E cmd.toCommand
  let l ← fxLimit E pair code
  match bal positionID with
  | none => throw (.of .accountNotFound ("FX position account " ++ E.text.uuidString positionID))
  | some ab =>
    if !ab.balance.isInteger then
      throw (.of .moneyOverflow ("FX position balance is not an integer: "
        ++ E.text.decimalString ab.balance))
    let projected := if increase then ab.balance + cmd.amount else ab.balance - cmd.amount
    if projected < l.minimumBalance ∨ l.maximumBalance < projected then
      throw (.of .fxPositionLimitExceeded (code ++ " projected balance outside ["
        ++ toString l.minimumBalance ++ "," ++ toString l.maximumBalance ++ "]"))

/-- `Validate` of the two rebalance processors. -/
def validateFXRebalance (name missing : String) (positionIndex : ℕ) (increase : Bool)
    (cmd : ResolvedCommand) (bal : Balances) : Except Err Unit := do
  if cmd.accountIDs.length < 2 then throw (.of .validation (name ++ missing))
  requirePresent (name ++ " requires metadata 'authorized_by'") cmd.metadata .authorizedBy
  requirePresent (name ++ " requires metadata 'reason'") cmd.metadata .reason
  amountChecks E cmd
  let positionID ← cmd.account positionIndex
  validateFXRebalancePosition E cmd bal positionID increase

/-- `system.adjustment[currency] → system.fx_conversion[pair][currency]` -/
def fxRebalanceCredit : TxProcessor where
  validateCommand cmd := (fxRebalanceTarget E cmd).map fun _ => ()
  resolveAccounts _ cmd := do
    let (pair, code) ← fxRebalanceTarget E cmd
    let adjustmentID ← inContext "fx_rebalance_credit: adjustment account"
      (getSystemAccountID E .adjustment "" code)
    let positionID ← inContext "fx_rebalance_credit: FX position account"
      (getSystemAccountID E .fxConversion pair code)
    return (twoLeg adjustmentID positionID, code)
  validateBeforeBalanceLocks := some (lockFXRebalancePositionLimit E 1)
  validate _ cmd bal :=
    validateFXRebalance E "fx_rebalance_credit" " requires source and position accounts" 1 true cmd bal
  buildEntries _ cmd _ :=
    movement ("FX rebalance credit pair=" ++ metaStringD cmd.metadata .pair ++ " reason="
      ++ metaStringD cmd.metadata .reason) "" cmd
  outboxEvents cmd txID entries := [newPostedEvent E cmd txID entries]

/-- `system.fx_conversion[pair][currency] → system.adjustment[currency]` -/
def fxRebalanceDebit : TxProcessor where
  validateCommand cmd := (fxRebalanceTarget E cmd).map fun _ => ()
  resolveAccounts _ cmd := do
    let (pair, code) ← fxRebalanceTarget E cmd
    let positionID ← inContext "fx_rebalance_debit: FX position account"
      (getSystemAccountID E .fxConversion pair code)
    let adjustmentID ← inContext "fx_rebalance_debit: adjustment account"
      (getSystemAccountID E .adjustment "" code)
    return (twoLeg positionID adjustmentID, code)
  validateBeforeBalanceLocks := some (lockFXRebalancePositionLimit E 0)
  validate _ cmd bal :=
    validateFXRebalance E "fx_rebalance_debit" " requires position and destination accounts" 0 false
      cmd bal
  buildEntries _ cmd _ :=
    movement ("FX rebalance debit pair=" ++ metaStringD cmd.metadata .pair ++ " reason="
      ++ metaStringD cmd.metadata .reason) "" cmd
  outboxEvents cmd txID entries := [newPostedEvent E cmd txID entries]

/-- `ValidateCommand` of `fx_out` and `fx_in`. -/
def requireFxMetadata (name : String) (cmd : Command) : Except Err Unit := do
  let _ ← requireNonEmpty (name ++ " requires metadata 'quote_id'") cmd.metadata .quoteID
  let _ ← requireNonEmpty (name ++ " requires metadata 'rate'") cmd.metadata .rate
  let _ ← requireNonEmpty (name ++ " requires metadata 'pair'") cmd.metadata .pair

/-- The cash and the position account of an FX leg. -/
def resolveFxLeg (name : String) (cmd : Command) : Except Err (UUID × UUID × Currency) := do
  let pair ← requireNonEmpty (name ++ " requires metadata 'pair' (e.g. 'IDRUSD')") cmd.metadata .pair
  let cashID ← inContext (name ++ ": user cash") (userAccountID E cmd.userID .cash cmd.currency)
  let c ← inContext (name ++ ": currency") (getAccountCurrency E cashID)
  let fxID ← inContext (name ++ ": fx_conversion[" ++ pair ++ "][" ++ c ++ "]")
    (getSystemAccountID E .fxConversion pair c)
  return (cashID, fxID, c)

/-- The note of an FX leg. -/
def fxNote (name : String) (cmd : ResolvedCommand) : String :=
  name ++ " pair=" ++ metaStringD cmd.metadata .pair ++ " quote=" ++ metaStringD cmd.metadata .quoteID
    ++ " rate=" ++ metaStringD cmd.metadata .rate

/-- `user.cash[ccy1] → fx_conversion[pair][ccy1]` -/
def fxOut : TxProcessor where
  validateCommand cmd := requireFxMetadata "fx_out" cmd
  resolveAccounts _ cmd := do
    let (cashID, fxID, c) ← resolveFxLeg E "fx_out" cmd
    return (twoLeg cashID fxID, c)
  validateBeforeBalanceLocks := none
  validate _ cmd bal := fundsChecks E cmd bal
  buildEntries _ cmd _ := movement (fxNote "fx_out" cmd) "" cmd
  outboxEvents cmd txID entries := [newPostedEvent E cmd txID entries]

/-- `fx_conversion[pair][ccy2] → user.cash[ccy2]` -/
def fxIn : TxProcessor where
  validateCommand cmd := requireFxMetadata "fx_in" cmd
  resolveAccounts _ cmd := do
    let (cashID, fxID, c) ← resolveFxLeg E "fx_in" cmd
    return (twoLeg fxID cashID, c)
  validateBeforeBalanceLocks := none
  validate _ cmd _ := amountChecks E cmd
  buildEntries _ cmd _ := movement (fxNote "fx_in" cmd) "" cmd
  outboxEvents cmd txID entries := [newPostedEvent E cmd txID entries]

/-! ## Disbursement and interest -/

/-- `settlement[platform][currency] → user.cash` -/
def disbursement : TxProcessor where
  validateCommand _ := .ok ()
  resolveAccounts _ cmd := do
    let cashID ← inContext "disbursement: user cash" (userAccountID E cmd.userID .cash cmd.currency)
    let c ← inContext "disbursement: currency" (getAccountCurrency E cashID)
    let settlementID ← inContext ("disbursement: settlement[platform][" ++ c ++ "]")
      (getSystemAccountID E .settlement "platform" c)
    return (twoLeg settlementID cashID, c)
  validateBeforeBalanceLocks := none
  validate _ cmd _ := amountChecks E cmd
  buildEntries _ cmd _ :=
    movement ("disbursement batch=" ++ metaStringD cmd.metadata .batchID ++ " item="
      ++ metaStringD cmd.metadata .itemNo) "" cmd
  outboxEvents cmd txID entries := [newPostedEvent E cmd txID entries]

/-- `account_id` and a list of text keys must be in the metadata. -/
def requireInterestMetadata (name accountMsg : String) (keys : List (MetaKey × String)) (cmd : Command) :
    Except Err Unit := do
  match metaUUID E.text cmd.metadata .accountID with
  | .error _ => throw (.of .validation (name ++ accountMsg))
  | .ok _ =>
    keys.forM fun k => (requireNonEmpty (name ++ k.2) cmd.metadata k.1).map fun _ => ()

/-- `system.interest_expense[currency] →` the savings account in metadata. -/
def interestAccrue : TxProcessor where
  validateCommand cmd :=
    requireInterestMetadata E "interest_accrue" " requires metadata 'account_id'"
      [(.accrualDate, " requires metadata 'accrual_date'"), (.rateBps, " requires metadata 'rate_bps'")]
      cmd
  resolveAccounts _ cmd := do
    let accountID ← inContext "interest_accrue" (metaUUID E.text cmd.metadata .accountID)
    let c ← inContext "interest_accrue: currency" (getAccountCurrency E accountID)
    let expenseID ← inContext ("interest_accrue: interest_expense[" ++ c ++ "]")
      (getSystemAccountID E .interestExpense "" c)
    return (twoLeg expenseID accountID, c)
  validateBeforeBalanceLocks := none
  validate _ cmd _ := amountChecks E cmd
  buildEntries _ cmd _ :=
    movement ("interest accrual date=" ++ metaStringD cmd.metadata .accrualDate ++ " rate_bps="
      ++ metaStringD cmd.metadata .rateBps) "" cmd
  outboxEvents cmd txID entries := [newPostedEvent E cmd txID entries]

/-- `system.interest_expense → system.accrued_interest_payable` -/
def interestLiabilityAccrue : TxProcessor where
  validateCommand cmd :=
    requireInterestMetadata E "interest_liability_accrue" " requires account_id"
      [(.accrualDate, " requires accrual_date"), (.rateBps, " requires rate_bps"),
        (.enrollmentID, " requires enrollment_id"), (.periodID, " requires period_id")] cmd
  resolveAccounts _ cmd := do
    let accountID ← inContext "interest_liability_accrue" (metaUUID E.text cmd.metadata .accountID)
    let c ← inContext "interest_liability_accrue: currency" (getAccountCurrency E accountID)
    let expenseID ← inContext "interest_liability_accrue: interest expense"
      (getSystemAccountID E .interestExpense "" c)
    let payableID ← inContext "interest_liability_accrue: payable"
      (getSystemAccountID E .accruedInterestPayable "" c)
    return (twoLeg expenseID payableID, c)
  validateBeforeBalanceLocks := none
  validate _ cmd _ := amountChecks E cmd
  buildEntries _ cmd _ :=
    movement ("interest liability accrual date=" ++ metaStringD cmd.metadata .accrualDate ++ " rate_bps="
      ++ metaStringD cmd.metadata .rateBps) "accrued interest payable" cmd
  outboxEvents cmd txID entries := [newPostedEvent E cmd txID entries]

/-- `system.accrued_interest_payable →` the savings account in metadata. -/
def interestCapitalize : TxProcessor where
  validateCommand cmd :=
    requireInterestMetadata E "interest_capitalize" " requires account_id"
      [(.periodID, " requires period_id"), (.enrollmentID, " requires enrollment_id")] cmd
  resolveAccounts _ cmd := do
    let accountID ← inContext "interest_capitalize" (metaUUID E.text cmd.metadata .accountID)
    let c ← inContext "interest_capitalize: currency" (getAccountCurrency E accountID)
    let payableID ← inContext "interest_capitalize: payable"
      (getSystemAccountID E .accruedInterestPayable "" c)
    return (twoLeg payableID accountID, c)
  validateBeforeBalanceLocks := none
  validate _ cmd _ := amountChecks E cmd
  buildEntries _ cmd _ :=
    movement ("release accrued interest payable period=" ++ metaStringD cmd.metadata .periodID)
      "monthly interest capitalization" cmd
  outboxEvents cmd txID entries := [newPostedEvent E cmd txID entries]

/-- `correction_stage`, one of two texts. -/
def correctionStage (cmd : Command) : Except Err String := do
  let stage := metaStringD cmd.metadata .correctionStage
  if stage ≠ "accrual" ∧ stage ≠ "capitalization" then
    throw (.of .validation "interest_adjustment correction_stage must be accrual or capitalization")
  return stage

/-- A correction of one stage of the interest chain, in either direction. -/
def interestAdjustment : TxProcessor where
  validateCommand cmd := do
    requireInterestMetadata E "interest_adjustment" " requires account_id"
      [(.adjustmentID, " requires adjustment_id"), (.periodID, " requires period_id"),
        (.enrollmentID, " requires enrollment_id")] cmd
    let _ ← correctionStage cmd
    let direction := metaStringD cmd.metadata .direction
    if direction ≠ "positive" ∧ direction ≠ "negative" then
      throw (.of .validation "interest_adjustment direction must be positive or negative")
  resolveAccounts _ cmd := do
    let accountID ← inContext "interest_adjustment" (metaUUID E.text cmd.metadata .accountID)
    let c ← inContext "interest_adjustment: currency" (getAccountCurrency E accountID)
    let expenseID ← inContext "interest_adjustment: interest expense"
      (getSystemAccountID E .interestExpense "" c)
    let payableID ← inContext "interest_adjustment: payable"
      (getSystemAccountID E .accruedInterestPayable "" c)
    let stage ← correctionStage cmd
    let negative := metaStringD cmd.metadata .direction = "negative"
    if stage = "accrual" then
      return (if negative then twoLeg payableID expenseID else twoLeg expenseID payableID, c)
    else
      return (if negative then twoLeg accountID payableID else twoLeg payableID accountID, c)
  validateBeforeBalanceLocks := none
  validate _ cmd bal :=
    if metaStringD cmd.metadata .direction = "negative" then fundsChecks E cmd bal
    else amountChecks E cmd
  buildEntries _ cmd _ :=
    movement ("interest adjustment id=" ++ metaStringD cmd.metadata .adjustmentID ++ " direction="
      ++ metaStringD cmd.metadata .direction) "explicit interest correction" cmd
  outboxEvents cmd txID entries := [newPostedEvent E cmd txID entries]

/-! ## Reversal -/

/-- The entry that undoes `e`. -/
def reversedEntry (e : LedgerEntry) : EntryInstruction :=
  ⟨e.accountID, e.direction.swap, e.amount, "reversal of entry " ++ E.text.uuidString e.id⟩

/-- `balances[id].Balance`: zero when the map has no such account. -/
def balanceOrZero (bal : Balances) (id : UUID) : Decimal := ((bal id).map AccountBalance.balance).getD 0

/-- Swaps debit and credit of every entry of the original. Its accounts are those of
the original's committed entries; the funds check of `BuildEntries` is on the accounts
the original credited. -/
def reversal : TxProcessor where
  validateCommand _ := .ok ()
  resolveAccounts db cmd := do
    if cmd.referenceID = UUID.nil then
      throw (.plain "reversal: ReferenceID (original transaction ID) required")
    match getAccountIDs db cmd.referenceID with
    | [] => throw (.of .originalNotFound (E.text.uuidString cmd.referenceID))
    | a :: rest =>
      let c ← inContext "reversal: currency" (getAccountCurrency E a)
      return (⟨a :: rest, UUID.nil, UUID.nil⟩, c)
  validateBeforeBalanceLocks := none
  validate db cmd _ := do
    let h ← inContext "reversal: get original header" (getHeader E db cmd.referenceID)
    if h.type = .reversal then throw (.newBizErr .notReversible "cannot reverse a reversal")
    if h.closedByTxID.isSome then
      throw (.newBizErr .alreadyReversed ("transaction " ++ E.text.uuidString cmd.referenceID
        ++ " already reversed"))
    if h.status ≠ .posted then
      throw (.newBizErr .notReversible ("original status is " ++ quote h.status.name
        ++ ", must be 'posted'"))
  buildEntries db cmd bal := do
    let orig := getEntries db cmd.referenceID
    if orig.isEmpty then
      throw (.of .originalNotFound ("no entries for " ++ E.text.uuidString cmd.referenceID))
    match orig.find? fun e =>
        e.direction = .credit ∧ balanceOrZero bal e.accountID < e.amount with
    | some e =>
      throw (.newBizErr .insufficientFunds ("reversal: account " ++ E.text.uuidString e.accountID
        ++ " has " ++ E.text.decimalString (balanceOrZero bal e.accountID) ++ ", needs "
        ++ E.text.decimalString e.amount))
    | none => return orig.map (reversedEntry E)
  outboxEvents cmd txID entries :=
    [newPostedEvent E cmd txID entries,
      .transactionReversed cmd.referenceID txID cmd.referenceID cmd.amount cmd.currency]

end Seev.Ledger
