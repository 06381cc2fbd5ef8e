import Mathlib.Tactic.MkIffOfInductiveProp
import Seev.Ledger.World

/-!
# Payin data model

The rows of `payin_webhook_events` and `payin_topup_intents`. A row is a value that
meets the `CHECK` constraints of its table, so that a statement which would break one
cannot store it. Columns that nothing on the crediting path reads (`raw`, `request_id`,
`fee_rule_id`, `fee_snapshot_version` and the timestamps) are left out.
-/

namespace Seev.Payin

open Ledger (UUID Decimal Currency)

/-- `payin_webhook_events.status` -/
inductive EventStatus where
  | received | posted | failed | blocked
  deriving DecidableEq, Repr

/-- `payin_topup_intents.status` -/
inductive TopupStatus where
  | pending | settled | expired
  deriving DecidableEq, Repr

def TopupStatus.name : TopupStatus → String
  | pending => "pending"
  | settled => "settled"
  | expired => "expired"

/-- `TopupFeeApplicationAddedOnTop` -/
def topupFeeApplicationAddedOnTop : String := "added_on_top"

/-- `model.WebhookEvent` -/
structure WebhookEvent where
  id : UUID
  vendor : String
  vendorEventID : String
  externalRef : String
  userID : UUID
  merchantTenantID : UUID
  amount : Decimal
  feeAmount : Decimal
  totalDebit : Decimal
  feeGateway : String
  feeQuoteID : Option UUID
  feeApplication : String
  currency : Currency
  status : EventStatus
  errorMessage : String
  deriving DecidableEq, Repr

/-- `model.TopupIntent` -/
structure TopupIntent where
  id : UUID
  reference : String
  userID : UUID
  merchantTenantID : UUID
  amount : Decimal
  feeAmount : Decimal
  totalDebit : Decimal
  feeGateway : String
  feeQuoteID : Option UUID
  feeApplication : String
  feeQuoteConsumedAt : Option ℕ
  currency : Currency
  vendor : String
  gateway : String
  status : TopupStatus
  settledEventID : Option UUID
  downstreamKey : String
  expiresAt : ℕ
  deriving DecidableEq, Repr

/-- `NormalizeFinancials` -/
def TopupIntent.normalizeFinancials (i : TopupIntent) : TopupIntent :=
  let i := if i.feeAmount < 0 then { i with feeAmount := 0 } else i
  let i := if i.totalDebit = 0 then { i with totalDebit := i.amount + i.feeAmount } else i
  if i.feeApplication = "" then { i with feeApplication := topupFeeApplicationAddedOnTop } else i

/-! ## The constraints of the two tables -/

/-- The `CHECK` constraints of `payin_webhook_events`. -/
@[mk_iff]
structure WebhookEvent.Checks (e : WebhookEvent) : Prop where
  amount_positive : 0 < e.amount
  fee_amount_non_negative : 0 ≤ e.feeAmount
  total_debit_invariant : e.totalDebit = e.amount ∧ e.feeAmount ≤ e.totalDebit
  fee_application_check : e.feeApplication = topupFeeApplicationAddedOnTop

instance (e : WebhookEvent) : Decidable e.Checks := decidable_of_iff _ (WebhookEvent.checks_iff e).symm

/-- The `CHECK` constraints of `payin_topup_intents`. -/
@[mk_iff]
structure TopupIntent.Checks (i : TopupIntent) : Prop where
  amount_positive : 0 < i.amount
  /-- `chk_topup_owner_shape` -/
  owner_shape : (i.userID ≠ UUID.nil ∧ i.merchantTenantID = UUID.nil) ∨
    (i.userID = UUID.nil ∧ i.merchantTenantID ≠ UUID.nil)
  fee_amount_non_negative : 0 ≤ i.feeAmount
  total_debit_invariant : i.amount ≤ i.totalDebit ∧ i.totalDebit = i.amount + i.feeAmount
  fee_application_check : i.feeApplication = topupFeeApplicationAddedOnTop

instance (i : TopupIntent) : Decidable i.Checks := decidable_of_iff _ (TopupIntent.checks_iff i).symm

abbrev EventRow := { e : WebhookEvent // e.Checks }

abbrev IntentRow := { i : TopupIntent // i.Checks }

/-- `UPDATE payin_webhook_events SET status = ..., error_message = ...` on one row. -/
def EventRow.mark (r : EventRow) (status : EventStatus) (errorMessage : String) : EventRow :=
  ⟨{ r.1 with status := status, errorMessage := errorMessage }, ⟨r.2.1, r.2.2, r.2.3, r.2.4⟩⟩

/-- `UPDATE payin_topup_intents SET status = ..., settled_event_id = ...` on one row. -/
def IntentRow.mark (r : IntentRow) (status : TopupStatus) (settledEventID : Option UUID) : IntentRow :=
  ⟨{ r.1 with status := status, settledEventID := settledEventID }, ⟨r.2.1, r.2.2, r.2.3, r.2.4, r.2.5⟩⟩

/-- Normalizing changes nothing on a row that meets its constraints. -/
theorem TopupIntent.Checks.normalizeFinancials_eq {i : TopupIntent} (h : i.Checks) :
    i.normalizeFinancials = i := by
  have hfee : ¬ i.feeAmount < 0 := not_lt.2 h.fee_amount_non_negative
  have htotal : i.totalDebit ≠ 0 := ne_of_gt (lt_of_lt_of_le h.amount_positive h.total_debit_invariant.1)
  have happ : i.feeApplication ≠ "" := by
    rw [h.fee_application_check]
    decide
  simp [normalizeFinancials, hfee, htotal, happ]

/-! ## Amounts -/

/-- `minorUnits` does not fail. -/
def isMinorUnits (d : Decimal) : Bool := !decide (d < 0) && d.isInteger && Decimal.inInt64 d.num

/-- `currency.ValidatePositiveMinorAmount` -/
def validatePositiveMinorAmount (d : Decimal) : Except String Unit :=
  if d ≤ 0 ∨ !d.isInteger then
    .error "invalid minor-unit amount: amount must be a positive integer minor-unit value"
  else if Decimal.maxInt64 < d then
    .error "invalid minor-unit amount: amount exceeds signed 64-bit minor-unit range"
  else .ok ()

end Seev.Payin
