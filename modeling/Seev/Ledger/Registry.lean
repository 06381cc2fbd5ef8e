import Seev.Ledger.Processors.Money
import Seev.Ledger.Processors.Transfer
import Seev.Ledger.Processors.Escrow
import Seev.Ledger.Processors.Admin

/-!
# The processor registry

`NewDefaultRegistry`: one processor for each transaction type, and the types that
close an original when they post.
-/

namespace Seev.Ledger

/-- `NewDefaultRegistry` and `ProcessorRegistry.Get` -/
def registry (E : Env) : TxType → Except Err TxProcessor
  | .moneyIn => .ok (moneyIn E)
  | .moneyOut => .ok (moneyOut E)
  | .withdrawInitiate => .ok (withdrawInitiate E)
  | .withdrawPending => .ok (withdrawPending E)
  | .withdrawSettle => .ok (withdrawSettle E)
  | .withdrawCancel => .ok (withdrawCancel E)
  | .withdrawPendingSettle => .ok (withdrawPendingSettle E)
  | .withdrawPendingCancel => .ok (withdrawPendingCancel E)
  | .transferP2P => .ok (transferP2P E)
  | .transferPocket => .ok (transferPocket E)
  | .merchantTransfer => .ok (merchantTransfer E)
  | .merchantPayinCredit => .ok (merchantPayinCredit E)
  | .merchantPayoutHold => .ok (merchantPayoutHold E)
  | .merchantPayoutSettle => .ok (merchantPayoutSettle E)
  | .merchantPayoutCancel => .ok (merchantPayoutCancel E)
  | .refund => .ok (refund E)
  | .feeCollect => .ok (feeCollect E)
  | .chargeback => .ok (chargeback E)
  | .escrowHold => .ok (escrowHold E)
  | .escrowRelease => .ok (escrowRelease E)
  | .escrowRefund => .ok (escrowRefund E)
  | .freezeInitiate => .ok (freezeInitiate E)
  | .freezeRelease => .ok (freezeRelease E)
  | .freezeConfiscate => .ok (freezeConfiscate E)
  | .adjustmentCredit => .ok (adjustmentCredit E)
  | .adjustmentDebit => .ok (adjustmentDebit E)
  | .adjustmentSuspenseCredit => .ok (adjustmentSuspenseCredit E)
  | .adjustmentSuspenseDebit => .ok (adjustmentSuspenseDebit E)
  | .fxRebalanceCredit => .ok (fxRebalanceCredit E)
  | .fxRebalanceDebit => .ok (fxRebalanceDebit E)
  | .fxOut => .ok (fxOut E)
  | .fxIn => .ok (fxIn E)
  | .disbursement => .ok (disbursement E)
  | .interestAccrue => .ok (interestAccrue E)
  | .interestLiabilityAccrue => .ok (interestLiabilityAccrue E)
  | .interestCapitalize => .ok (interestCapitalize E)
  | .interestAdjustment => .ok (interestAdjustment E)
  | .reversal => .ok (reversal E)
  | .other name => .error (.of .unknownProcessor (quote name))

/-- `lifecycleCloseReason`. The merchant payout closers are not in it. -/
def lifecycleCloseReason : TxType → Option CloseReason
  | .reversal => some .reversed
  | .withdrawSettle => some .settled
  | .withdrawCancel => some .cancelled
  | .withdrawPendingSettle => some .settled
  | .withdrawPendingCancel => some .cancelled
  | .escrowRelease => some .released
  | .escrowRefund => some .refunded
  | .refund => some .refunded
  | _ => none

/-- `currencyOperation`: the operation of a type and whether it is in flight. -/
def currencyOperation (t : TxType) (m : Metadata) : Option (CurrencyOperation × Bool) :=
  let flag := decide (m .currencyInflight = some (.bool true))
  match t with
  | .moneyIn | .merchantPayinCredit => some (.topup, flag)
  | .moneyOut | .withdrawInitiate | .merchantPayoutHold | .disbursement => some (.payout, flag)
  | .withdrawPending | .withdrawPendingSettle | .withdrawPendingCancel | .withdrawSettle
  | .withdrawCancel | .merchantPayoutSettle | .merchantPayoutCancel => some (.payout, true)
  | .transferP2P | .transferPocket | .merchantTransfer | .escrowHold => some (.transfer, flag)
  | .escrowRelease | .escrowRefund | .refund => some (.transfer, true)
  | _ => none

end Seev.Ledger
