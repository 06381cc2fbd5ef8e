import Seev.Ledger.Processors.Core

/-!
# Escrow and compliance holds

`escrow_hold`, `escrow_release`, `escrow_refund` and the three `freeze_*`
processors. The escrow account is sharded by currency: its qualifier is the
currency itself.
-/

namespace Seev.Ledger

open Lib

variable (E : Env)

/-- `buyer.cash → escrow[currency]` -/
def escrowHold : TxProcessor where
  validateCommand _ := .ok ()
  resolveAccounts _ cmd := do
    let cashID ← inContext "escrow_hold: buyer cash" (userAccountID E cmd.userID .cash cmd.currency)
    let c ← inContext "escrow_hold: currency" (getAccountCurrency E cashID)
    let escrowID ← inContext ("escrow_hold: escrow[" ++ c ++ "]") (getSystemAccountID E .escrow c c)
    withInlineFee E "escrow_hold" cmd c (twoLeg cashID escrowID)
  validateBeforeBalanceLocks := none
  validate _ cmd bal := fundsAndFeeChecks E cmd bal
  buildEntries _ cmd _ := movementWithFee E "escrow hold" "" "escrow booking fee" cmd
  outboxEvents cmd txID entries := [newPostedEvent E cmd txID entries]

/-- `escrow[currency] →` the account in metadata, closing an `escrow_hold`. -/
def escrowRelease : TxProcessor where
  validateCommand cmd := requireReferenceID "escrow_release" cmd
  resolveAccounts _ cmd := do
    let merchantID ← inContext "escrow_release" (metaUUID E.text cmd.metadata .merchantAccountID)
    let c ← inContext "escrow_release: merchant currency" (getAccountCurrency E merchantID)
    let escrowID ← inContext ("escrow_release: escrow[" ++ c ++ "]") (getSystemAccountID E .escrow c c)
    withInlineFee E "escrow_release" cmd c (twoLeg escrowID merchantID)
  validateBeforeBalanceLocks := none
  validate db cmd bal := do
    validateOriginalForClose E db cmd.referenceID .escrowHold cmd.amount
    fundsAndFeeChecks E cmd bal
  buildEntries _ cmd _ := movementWithFee E "escrow release" "" "marketplace commission" cmd
  outboxEvents cmd txID entries := [newPostedEvent E cmd txID entries]

/-- `escrow[currency] → buyer.cash`, closing an `escrow_hold`. -/
def escrowRefund : TxProcessor where
  validateCommand cmd := requireReferenceID "escrow_refund" cmd
  resolveAccounts _ cmd := do
    if cmd.targetUserID = UUID.nil then throw (.plain "escrow_refund: TargetUserID (buyer) required")
    let buyerCashID ← inContext "escrow_refund: buyer cash"
      (userAccountID E cmd.targetUserID .cash cmd.currency)
    let c ← inContext "escrow_refund: currency" (getAccountCurrency E buyerCashID)
    let escrowID ← inContext ("escrow_refund: escrow[" ++ c ++ "]") (getSystemAccountID E .escrow c c)
    return (twoLeg escrowID buyerCashID, c)
  validateBeforeBalanceLocks := none
  validate db cmd bal := do
    validateOriginalForClose E db cmd.referenceID .escrowHold cmd.amount
    fundsChecks E cmd bal
  buildEntries _ cmd _ := movement "escrow refund to buyer" "" cmd
  outboxEvents cmd txID entries := [newPostedEvent E cmd txID entries]

/-- `user.cash → user.frozen` -/
def freezeInitiate : TxProcessor where
  validateCommand _ := .ok ()
  resolveAccounts _ cmd := do
    let cashID ← inContext "freeze_initiate: user cash" (userAccountID E cmd.userID .cash cmd.currency)
    let frozenID ← inContext "freeze_initiate: frozen account"
      (userAccountID E cmd.userID .frozen cmd.currency)
    let c ← inContext "freeze_initiate: currency" (getAccountCurrency E cashID)
    return (twoLeg cashID frozenID, c)
  validateBeforeBalanceLocks := none
  validate _ cmd bal := do
    requirePresent "freeze_initiate requires metadata 'case_id'" cmd.metadata .caseID
    fundsChecks E cmd bal
  buildEntries _ cmd _ :=
    movement ("freeze: " ++ metaStringD cmd.metadata .reason ++ " ["
      ++ metaStringD cmd.metadata .caseID ++ "]") "" cmd
  outboxEvents cmd txID entries := [newPostedEvent E cmd txID entries]

/-- `user.frozen → user.cash` -/
def freezeRelease : TxProcessor where
  validateCommand _ := .ok ()
  resolveAccounts _ cmd := do
    let frozenID ← inContext "freeze_release: frozen account"
      (userAccountID E cmd.userID .frozen cmd.currency)
    let cashID ← inContext "freeze_release: user cash" (userAccountID E cmd.userID .cash cmd.currency)
    let c ← inContext "freeze_release: currency" (getAccountCurrency E frozenID)
    return (twoLeg frozenID cashID, c)
  validateBeforeBalanceLocks := none
  validate _ cmd bal := do
    requirePresent "freeze_release requires metadata 'case_id'" cmd.metadata .caseID
    fundsChecks E cmd bal
  buildEntries _ cmd _ :=
    movement ("freeze released [" ++ metaStringD cmd.metadata .caseID ++ "]") "" cmd
  outboxEvents cmd txID entries := [newPostedEvent E cmd txID entries]

/-- `user.frozen → system.confiscated` -/
def freezeConfiscate : TxProcessor where
  validateCommand _ := .ok ()
  resolveAccounts _ cmd := do
    let frozenID ← inContext "freeze_confiscate: frozen account"
      (userAccountID E cmd.userID .frozen cmd.currency)
    let c ← inContext "freeze_confiscate: currency" (getAccountCurrency E frozenID)
    let confiscatedID ← inContext "freeze_confiscate: confiscated account"
      (getSystemAccountID E .confiscated "" c)
    return (twoLeg frozenID confiscatedID, c)
  validateBeforeBalanceLocks := none
  validate _ cmd bal := do
    requirePresent "freeze_confiscate requires metadata 'case_id'" cmd.metadata .caseID
    requirePresent "freeze_confiscate requires metadata 'legal_ref'" cmd.metadata .legalRef
    fundsChecks E cmd bal
  buildEntries _ cmd _ :=
    movement ("confiscated case=" ++ metaStringD cmd.metadata .caseID ++ " legal="
      ++ metaStringD cmd.metadata .legalRef) "" cmd
  outboxEvents cmd txID entries := [newPostedEvent E cmd txID entries]

end Seev.Ledger
