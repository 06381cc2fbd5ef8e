import Seev.Ledger.Processors.Core

/-!
# Transfers, merchant movements and charges

`transfer_p2p`, `transfer_pocket`, the merchant processors, `refund`,
`fee_collect` and `chargeback`.
-/

namespace Seev.Ledger

open Lib

variable (E : Env)

/-- `sender.cash → receiver.cash` -/
def transferP2P : TxProcessor where
  validateCommand _ := .ok ()
  resolveAccounts _ cmd := do
    if cmd.targetUserID = UUID.nil then throw (.plain "transfer_p2p: TargetUserID required")
    if cmd.userID = cmd.targetUserID then
      throw (.newBizErr .selfTransfer "cannot transfer to yourself")
    let senderID ← inContext "transfer_p2p: sender cash" (userAccountID E cmd.userID .cash cmd.currency)
    let receiverID ← inContext "transfer_p2p: receiver cash"
      (userAccountID E cmd.targetUserID .cash cmd.currency)
    let c ← inContext "transfer_p2p: currency" (getAccountCurrency E senderID)
    withInlineFee E "transfer_p2p" cmd c (twoLeg senderID receiverID)
  validateBeforeBalanceLocks := none
  validate _ cmd bal := do
    let a ← cmd.account 0
    let b ← cmd.account 1
    amountChecks E cmd
    sufficientFunds E a cmd bal
    notSelfTransfer E a b
    feeAmount E cmd
  buildEntries _ cmd _ := movementWithFee E "" "" "p2p transfer fee" cmd
  outboxEvents cmd txID entries := [newPostedEvent E cmd txID entries]

/-- `user.cash ↔ user.pocket`; the header keeps cash as source in both directions. -/
def transferPocket : TxProcessor where
  validateCommand _ := .ok ()
  resolveAccounts _ cmd := do
    if cmd.pocketCode = "" then throw (.plain "transfer_pocket: PocketCode required")
    let cashID ← inContext "transfer_pocket: cash" (userAccountID E cmd.userID .cash cmd.currency)
    let pocketID ← inContext ("transfer_pocket: pocket " ++ quote cmd.pocketCode)
      (userPocketAccountID E cmd.userID cmd.pocketCode cmd.currency)
    let c ← inContext "transfer_pocket: currency" (getAccountCurrency E cashID)
    return (twoLeg cashID pocketID, c)
  validateBeforeBalanceLocks := none
  validate _ cmd bal := do
    let msg := "metadata 'direction' must be 'to_pocket' or 'from_pocket'"
    let dir ← (metaString cmd.metadata .direction).mapError fun _ => Err.of .validation msg
    if dir ≠ "to_pocket" ∧ dir ≠ "from_pocket" then throw (.of .validation msg)
    let sourceID ← if dir = "from_pocket" then cmd.account 1 else cmd.account 0
    amountChecks E cmd
    sufficientFunds E sourceID cmd bal
  buildEntries _ cmd _ := do
    let cashID ← cmd.account 0
    let pocketID ← cmd.account 1
    if metaStringD cmd.metadata .direction = "to_pocket" then
      return [⟨cashID, .debit, cmd.amount, "to pocket " ++ cmd.pocketCode⟩,
        ⟨pocketID, .credit, cmd.amount, ""⟩]
    else
      return [⟨pocketID, .debit, cmd.amount, "from pocket " ++ cmd.pocketCode⟩,
        ⟨cashID, .credit, cmd.amount, ""⟩]
  outboxEvents cmd txID entries := [newPostedEvent E cmd txID entries]

/-- `merchant.cash →` the destination the caller supplied. -/
def merchantTransfer : TxProcessor where
  validateCommand cmd := requireMerchantTenantID "merchant_transfer" cmd
  resolveAccounts _ cmd := do
    if cmd.merchantTenantID = UUID.nil then throw (.plain "merchant_transfer: MerchantTenantID required")
    let destinationID ← inContext "merchant_transfer"
      (metaUUID E.text cmd.metadata .destinationAccountID)
    let sourceID ← inContext "merchant_transfer: source cash"
      (merchantAccountID E cmd.merchantTenantID .cash cmd.currency)
    if sourceID = destinationID then
      throw (.newBizErr .selfTransfer "cannot transfer to own account")
    let c ← inContext "merchant_transfer: currency" (getAccountCurrency E sourceID)
    return (twoLeg sourceID destinationID, c)
  validateBeforeBalanceLocks := none
  validate _ cmd bal := do
    let a ← cmd.account 0
    let b ← cmd.account 1
    amountChecks E cmd
    sufficientFunds E a cmd bal
    notSelfTransfer E a b
  buildEntries _ cmd _ := movement "" "" cmd
  outboxEvents cmd txID entries := [newPostedEvent E cmd txID entries]

/-- `settlement[gateway] → merchant.cash` -/
def merchantPayinCredit : TxProcessor where
  validateCommand cmd := requireMerchantTenantID "merchant_payin_credit" cmd
  resolveAccounts _ cmd := do
    requireMerchantTenantID "merchant_payin_credit" cmd
    let gateway ← requireGateway "merchant_payin_credit" cmd
    let destID ← inContext "merchant_payin_credit: merchant cash"
      (merchantAccountID E cmd.merchantTenantID .cash cmd.currency)
    let c ← inContext "merchant_payin_credit: currency" (getAccountCurrency E destID)
    let sysID ← inContext ("merchant_payin_credit: settlement[" ++ gateway ++ "]")
      (getSystemAccountID E .settlement gateway c)
    withInlineFee E "merchant_payin_credit" cmd c (twoLeg sysID destID)
  validateBeforeBalanceLocks := none
  validate _ cmd _ := do
    amountChecks E cmd
    feeAmount E cmd
  buildEntries _ cmd _ :=
    movementWithFee E "" "merchant_payin_credit → cash" "merchant payin fee" cmd
  outboxEvents cmd txID entries := [newPostedEvent E cmd txID entries]

/-- `merchant.cash → merchant.hold` -/
def merchantPayoutHold : TxProcessor where
  validateCommand cmd := requireMerchantTenantID "merchant_payout_hold" cmd
  resolveAccounts _ cmd := do
    requireMerchantTenantID "merchant_payout_hold" cmd
    let srcID ← inContext "merchant_payout_hold: source"
      (merchantAccountID E cmd.merchantTenantID .cash cmd.currency)
    let holdID ← inContext "merchant_payout_hold: hold"
      (merchantAccountID E cmd.merchantTenantID .hold cmd.currency)
    let c ← inContext "merchant_payout_hold: currency" (getAccountCurrency E srcID)
    withInlineFee E "merchant_payout_hold" cmd c (twoLeg srcID holdID)
  validateBeforeBalanceLocks := none
  validate _ cmd bal := fundsAndFeeChecks E cmd bal
  buildEntries _ cmd _ := movementWithFee E "" "" "merchant payout initiation fee" cmd
  outboxEvents cmd txID entries := [newPostedEvent E cmd txID entries]

/-- `merchant.hold → settlement[gateway]`, checked against a `merchant_payout_hold`. -/
def merchantPayoutSettle : TxProcessor where
  validateCommand cmd := do
    requireMerchantTenantID "merchant_payout_settle" cmd
    requireReferenceID "merchant_payout_settle" cmd
  resolveAccounts _ cmd := do
    requireMerchantTenantID "merchant_payout_settle" cmd
    let gateway ← requireGateway "merchant_payout_settle" cmd
    let holdID ← inContext "merchant_payout_settle: hold"
      (merchantAccountID E cmd.merchantTenantID .hold cmd.currency)
    let c ← inContext "merchant_payout_settle: currency" (getAccountCurrency E holdID)
    let sysID ← inContext ("merchant_payout_settle: settlement[" ++ gateway ++ "]")
      (getSystemAccountID E .settlement gateway c)
    withInlineFee E "merchant_payout_settle" cmd c (twoLeg holdID sysID)
  validateBeforeBalanceLocks := none
  validate db cmd bal := do
    validateOriginalForClose E db cmd.referenceID .merchantPayoutHold cmd.amount
    fundsAndFeeChecks E cmd bal
  buildEntries _ cmd _ := movementWithFee E "merchant payout settled" "" "merchant payout fee" cmd
  outboxEvents cmd txID entries := [newPostedEvent E cmd txID entries]

/-- `merchant.hold → merchant.cash`, checked against a `merchant_payout_hold`. -/
def merchantPayoutCancel : TxProcessor where
  validateCommand cmd := do
    requireMerchantTenantID "merchant_payout_cancel" cmd
    requireReferenceID "merchant_payout_cancel" cmd
  resolveAccounts _ cmd := do
    requireMerchantTenantID "merchant_payout_cancel" cmd
    let holdID ← inContext "merchant_payout_cancel: hold"
      (merchantAccountID E cmd.merchantTenantID .hold cmd.currency)
    let cashID ← inContext "merchant_payout_cancel: cash"
      (merchantAccountID E cmd.merchantTenantID .cash cmd.currency)
    let c ← inContext "merchant_payout_cancel: currency" (getAccountCurrency E holdID)
    return (twoLeg holdID cashID, c)
  validateBeforeBalanceLocks := none
  validate db cmd bal := do
    validateOriginalForClose E db cmd.referenceID .merchantPayoutHold cmd.amount
    fundsChecks E cmd bal
  buildEntries _ cmd _ := movement "merchant payout cancelled" "" cmd
  outboxEvents cmd txID entries := [newPostedEvent E cmd txID entries]

/-- The account in metadata `merchant_account_id` `→ user.cash`, closing any posted
transaction. -/
def refund : TxProcessor where
  validateCommand cmd := requireReferenceID "refund" cmd
  resolveAccounts _ cmd := do
    if cmd.targetUserID = UUID.nil then
      throw (.plain "refund: TargetUserID (refund receiver) required")
    let merchantID ← inContext "refund" (metaUUID E.text cmd.metadata .merchantAccountID)
    let userCashID ← inContext "refund: user cash" (userAccountID E cmd.targetUserID .cash cmd.currency)
    let c ← inContext "refund: currency" (getAccountCurrency E userCashID)
    return (twoLeg merchantID userCashID, c)
  validateBeforeBalanceLocks := none
  validate db cmd bal := do
    let h ← inContext "refund: get original header" (getHeader E db cmd.referenceID)
    if h.closedByTxID.isSome then
      throw (.newBizErr .alreadyClosed ("transaction " ++ E.text.uuidString cmd.referenceID
        ++ " already closed"))
    if h.status ≠ .posted then
      throw (.newBizErr .notReversible ("original status is " ++ quote h.status.name
        ++ ", must be 'posted'"))
    fundsChecks E cmd bal
  buildEntries _ cmd _ :=
    movement ("refund of " ++ E.text.uuidString cmd.referenceID ++ " to user") "" cmd
  outboxEvents cmd txID entries := [newPostedEvent E cmd txID entries]

/-- `user.cash → fee[gateway]` -/
def feeCollect : TxProcessor where
  validateCommand _ := .ok ()
  resolveAccounts _ cmd := do
    let feeGateway ← requireNonEmpty
      "fee_collect requires metadata 'fee_gateway' (e.g. 'platform', 'bca')" cmd.metadata .feeGateway
    let userCashID ← inContext "fee_collect: user cash" (userAccountID E cmd.userID .cash cmd.currency)
    let c ← inContext "fee_collect: currency" (getAccountCurrency E userCashID)
    let feeAccID ← inContext ("fee_collect: fee[" ++ feeGateway ++ "]")
      (getSystemAccountID E .fee feeGateway c)
    return (twoLeg userCashID feeAccID, c)
  validateBeforeBalanceLocks := none
  validate _ cmd bal := fundsChecks E cmd bal
  buildEntries _ cmd _ :=
    let reason := metaStringD cmd.metadata .reason
    movement (if reason ≠ "" then "fee_collect: " ++ reason else "fee_collect") "" cmd
  outboxEvents cmd txID entries := [newPostedEvent E cmd txID entries]

/-- `user.cash → chargeback[card_network]`, without a funds check. -/
def chargeback : TxProcessor where
  validateCommand _ := .ok ()
  resolveAccounts _ cmd := do
    let _ ← requireNonEmpty "chargeback requires metadata 'dispute_ref'" cmd.metadata .disputeRef
    let cardNetwork ← requireNonEmpty
      "chargeback requires metadata 'card_network' (e.g. 'visa', 'mastercard')" cmd.metadata .cardNetwork
    let cashID ← inContext "chargeback: user cash" (userAccountID E cmd.userID .cash cmd.currency)
    let c ← inContext "chargeback: currency" (getAccountCurrency E cashID)
    let cbID ← inContext ("chargeback: system chargeback[" ++ cardNetwork ++ "]")
      (getSystemAccountID E .chargeback cardNetwork c)
    return (twoLeg cashID cbID, c)
  validateBeforeBalanceLocks := none
  validate _ cmd _ := amountChecks E cmd
  buildEntries _ cmd _ := movement ("chargeback: " ++ metaStringD cmd.metadata .disputeRef) "" cmd
  outboxEvents cmd txID entries := [newPostedEvent E cmd txID entries]

end Seev.Ledger
