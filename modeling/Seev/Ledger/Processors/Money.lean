import Seev.Ledger.Processors.Core

/-!
# Top-ups, payments and the withdrawal lifecycle

`money_in`, `money_out` and the six `withdraw_*` processors.
-/

namespace Seev.Ledger

open Lib

variable (E : Env)

/-- `user.cash`, or the pocket the command names. -/
def cashOrPocket (pocketCtx cashCtx : String) (cmd : Command) : Except Err UUID :=
  if cmd.pocketCode ≠ "" then
    inContext pocketCtx (userPocketAccountID E cmd.userID cmd.pocketCode cmd.currency)
  else inContext cashCtx (userAccountID E cmd.userID .cash cmd.currency)

/-- The note of the user leg of `money_in` and `money_out`. -/
def pocketNote (cmd : ResolvedCommand) : String :=
  if cmd.pocketCode ≠ "" then "pocket:" ++ cmd.pocketCode else "cash"

/-- `settlement[gateway] → user.cash|pocket`, with an inline fee taken from the amount
or, for `added_on_top`, charged above it. -/
def moneyIn : TxProcessor where
  validateCommand _ := .ok ()
  resolveAccounts _ cmd := do
    let gateway ← requireGateway "money_in" cmd
    let destID ← cashOrPocket E ("money_in: pocket " ++ quote cmd.pocketCode) "money_in: cash account" cmd
    let c ← inContext "money_in: currency" (getAccountCurrency E destID)
    let sysID ← inContext ("money_in: settlement[" ++ gateway ++ "]")
      (getSystemAccountID E .settlement gateway c)
    withInlineFee E "money_in" cmd c (twoLeg sysID destID)
  validateBeforeBalanceLocks := none
  validate _ cmd _ := do
    amountChecks E cmd
    feeAmount E cmd
    if metaStringD cmd.metadata .feeApplication = "added_on_top" then
      match metaDecimal E.text cmd.metadata .totalDebit with
      | .error _ => throw (.of .validation "money_in total_debit is invalid")
      | .ok totalDebit =>
        let fee := ((hasFee E cmd).map Prod.snd).getD 0
        if totalDebit ≠ cmd.amount + fee then
          throw (.newBizErr .validation "money_in total_debit must equal amount plus fee")
    return ()
  buildEntries _ cmd _ := do
    let a ← cmd.account 0
    let b ← cmd.account 1
    let note := "money_in → " ++ pocketNote cmd
    match hasFee E cmd with
    | none => return [⟨a, .debit, cmd.amount, ""⟩, ⟨b, .credit, cmd.amount, note⟩]
    | some (feeID, fee) =>
      if metaStringD cmd.metadata .feeApplication = "added_on_top" then
        let sourceAmount := match metaDecimal E.text cmd.metadata .totalDebit with
          | .ok totalDebit => totalDebit
          | .error _ => cmd.amount + fee
        return [⟨a, .debit, sourceAmount, ""⟩, ⟨b, .credit, cmd.amount, note⟩,
          ⟨feeID, .credit, fee, "money_in fee"⟩]
      else
        return [⟨a, .debit, cmd.amount, ""⟩, ⟨b, .credit, cmd.amount - fee, note⟩,
          ⟨feeID, .credit, fee, "money_in fee"⟩]
  outboxEvents cmd txID entries := [newPostedEvent E cmd txID entries]

/-- `user.cash|pocket → settlement[gateway]` -/
def moneyOut : TxProcessor where
  validateCommand _ := .ok ()
  resolveAccounts _ cmd := do
    let gateway ← requireGateway "money_out" cmd
    let srcID ← cashOrPocket E ("money_out: pocket " ++ quote cmd.pocketCode) "money_out: cash account" cmd
    let c ← inContext "money_out: currency" (getAccountCurrency E srcID)
    let sysID ← inContext ("money_out: settlement[" ++ gateway ++ "]")
      (getSystemAccountID E .settlement gateway c)
    withInlineFee E "money_out" cmd c (twoLeg srcID sysID)
  validateBeforeBalanceLocks := none
  validate _ cmd bal := fundsAndFeeChecks E cmd bal
  buildEntries _ cmd _ := movementWithFee E ("money_out ← " ++ pocketNote cmd) "" "money_out fee" cmd
  outboxEvents cmd txID entries := [newPostedEvent E cmd txID entries]

/-- `user.cash|pocket → user.hold` -/
def withdrawInitiate : TxProcessor where
  validateCommand _ := .ok ()
  resolveAccounts _ cmd := do
    let srcID ← cashOrPocket E "withdraw_initiate: source" "withdraw_initiate: source" cmd
    let holdID ← inContext "withdraw_initiate: hold" (userAccountID E cmd.userID .hold cmd.currency)
    let c ← inContext "withdraw_initiate: currency" (getAccountCurrency E srcID)
    withInlineFee E "withdraw_initiate" cmd c (twoLeg srcID holdID)
  validateBeforeBalanceLocks := none
  validate _ cmd bal := fundsAndFeeChecks E cmd bal
  buildEntries _ cmd _ := movementWithFee E "" "" "withdraw initiation fee" cmd
  outboxEvents cmd txID entries := [newPostedEvent E cmd txID entries]

/-- A movement between two accounts of the command's user, in the currency of the
first. -/
def resolveUserPair (name fromCtx toCtx : String) (src dst : AccountType) (cmd : Command) :
    Except Err (ResolvedAccounts × Currency) := do
  let a ← inContext (name ++ ": " ++ fromCtx) (userAccountID E cmd.userID src cmd.currency)
  let b ← inContext (name ++ ": " ++ toCtx) (userAccountID E cmd.userID dst cmd.currency)
  let c ← inContext (name ++ ": currency") (getAccountCurrency E a)
  return (twoLeg a b, c)

/-- `user.hold → user.pending`: it names no original and closes none. -/
def withdrawPending : TxProcessor where
  validateCommand _ := .ok ()
  resolveAccounts _ cmd := resolveUserPair E "withdraw_pending" "hold" "pending" .hold .pending cmd
  validateBeforeBalanceLocks := none
  validate _ cmd bal := fundsChecks E cmd bal
  buildEntries _ cmd _ := movement "escalate to pending: SLA breach" "" cmd
  outboxEvents cmd txID entries := [newPostedEvent E cmd txID entries]

/-- `user.hold → settlement[gateway]`, closing a `withdraw_initiate`. -/
def withdrawSettle : TxProcessor where
  validateCommand cmd := requireReferenceID "withdraw_settle" cmd
  resolveAccounts _ cmd := do
    let gateway ← requireGateway "withdraw_settle" cmd
    let holdID ← inContext "withdraw_settle: hold" (userAccountID E cmd.userID .hold cmd.currency)
    let c ← inContext "withdraw_settle: currency" (getAccountCurrency E holdID)
    let sysID ← inContext ("withdraw_settle: settlement[" ++ gateway ++ "]")
      (getSystemAccountID E .settlement gateway c)
    withInlineFee E "withdraw_settle" cmd c (twoLeg holdID sysID)
  validateBeforeBalanceLocks := none
  validate db cmd bal := do
    validateOriginalForClose E db cmd.referenceID .withdrawInitiate cmd.amount
    fundsAndFeeChecks E cmd bal
  buildEntries _ cmd _ := movementWithFee E "withdraw settled" "" "withdraw fee" cmd
  outboxEvents cmd txID entries := [newPostedEvent E cmd txID entries]

/-- `user.hold → user.cash`, closing a `withdraw_initiate`; a pocket is never credited. -/
def withdrawCancel : TxProcessor where
  validateCommand cmd := requireReferenceID "withdraw_cancel" cmd
  resolveAccounts _ cmd := resolveUserPair E "withdraw_cancel" "hold" "cash" .hold .cash cmd
  validateBeforeBalanceLocks := none
  validate db cmd bal := do
    validateOriginalForClose E db cmd.referenceID .withdrawInitiate cmd.amount
    fundsChecks E cmd bal
  buildEntries _ cmd _ := movement "withdraw cancelled" "" cmd
  outboxEvents cmd txID entries := [newPostedEvent E cmd txID entries]

/-- `user.pending → settlement[gateway]`, closing a `withdraw_pending`. -/
def withdrawPendingSettle : TxProcessor where
  validateCommand cmd := requireReferenceID "withdraw_pending_settle" cmd
  resolveAccounts _ cmd := do
    let gateway ← requireGateway "withdraw_pending_settle" cmd
    let pendingID ← inContext "withdraw_pending_settle: pending"
      (userAccountID E cmd.userID .pending cmd.currency)
    let c ← inContext "withdraw_pending_settle: currency" (getAccountCurrency E pendingID)
    let sysID ← inContext ("withdraw_pending_settle: settlement[" ++ gateway ++ "]")
      (getSystemAccountID E .settlement gateway c)
    return (twoLeg pendingID sysID, c)
  validateBeforeBalanceLocks := none
  validate db cmd bal := do
    validateOriginalForClose E db cmd.referenceID .withdrawPending cmd.amount
    fundsChecks E cmd bal
  buildEntries _ cmd _ := movement "pending withdraw settled (manual)" "" cmd
  outboxEvents cmd txID entries := [newPostedEvent E cmd txID entries]

/-- `user.pending → user.cash`, closing a `withdraw_pending`. -/
def withdrawPendingCancel : TxProcessor where
  validateCommand cmd := requireReferenceID "withdraw_pending_cancel" cmd
  resolveAccounts _ cmd :=
    resolveUserPair E "withdraw_pending_cancel" "pending" "cash" .pending .cash cmd
  validateBeforeBalanceLocks := none
  validate db cmd bal := do
    validateOriginalForClose E db cmd.referenceID .withdrawPending cmd.amount
    fundsChecks E cmd bal
  buildEntries _ cmd _ := movement "pending withdraw cancelled (manual)" "" cmd
  outboxEvents cmd txID entries := [newPostedEvent E cmd txID entries]

end Seev.Ledger
