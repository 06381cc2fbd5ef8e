import Seev.Payin.Basic

/-!
# Payout data model

The rows of `payout_requests`, `payout_vendor_commands`, `payout_vendor_calls` and of the
two routing tables. The tables that a unique index guards are subtypes: a list of rows
that breaks a `CHECK` constraint or a unique index is not a table (`RequestTable`,
`CommandTable`). Columns that no modelled statement reads are left out: `destination`,
`created_by`, `request_id` and `created_at` of a request, `command_key` (a function of the
request and the attempt), `last_attempted_at`, `last_error` and `updated_at` of a command,
and `req_summary` of a call.

Times are in seconds.
-/

namespace Seev.Payout

open Ledger (UUID Decimal Currency)

/-! ## Requests -/

/-- `payout_requests.status` -/
inductive Status where
  | created | held | submitted | vendorPending | settled | failed | cancelled | rejected
  deriving DecidableEq, Repr

/-- As the column has it. -/
def Status.name : Status → String
  | created => "created"
  | held => "held"
  | submitted => "submitted"
  | vendorPending => "vendor_pending"
  | settled => "settled"
  | failed => "failed"
  | cancelled => "cancelled"
  | rejected => "rejected"

/-- `model.PayoutRequest` -/
structure PayoutRequest where
  id : UUID
  userID : UUID
  merchantTenantID : UUID
  amount : Decimal
  currency : Currency
  vendor : String
  status : Status
  holdTxID : Option UUID
  settleTxID : Option UUID
  vendorRef : Option String
  errorMessage : String
  feeQuoteID : Option UUID
  feeAmount : Option Decimal
  feeGateway : String
  /-- `""` is NULL -/
  downstreamKey : String
  updatedAt : ℕ
  deriving DecidableEq, Repr

/-- The `CHECK` constraints of `payout_requests`. -/
@[mk_iff]
structure PayoutRequest.Checks (r : PayoutRequest) : Prop where
  amount_positive : 0 < r.amount
  /-- `chk_payout_owner_shape` -/
  owner_shape : (r.userID ≠ UUID.nil ∧ r.merchantTenantID = UUID.nil) ∨
    (r.userID = UUID.nil ∧ r.merchantTenantID ≠ UUID.nil)
  fee_amount_nonnegative : ∀ fee ∈ r.feeAmount, 0 ≤ fee

instance (r : PayoutRequest) : Decidable r.Checks := decidable_of_iff _ (PayoutRequest.checks_iff r).symm

/-- The constraints of `payout_requests` on all of its rows. -/
@[mk_iff]
structure RequestsOK (rs : List PayoutRequest) : Prop where
  checks : ∀ r ∈ rs, r.Checks
  primary_key : (rs.map (·.id)).Nodup
  /-- `idx_payout_requests_merchant_downstream_key` -/
  downstream_key : ((rs.filter (·.downstreamKey ≠ "")).map fun r => (r.merchantTenantID, r.downstreamKey)).Nodup

instance (rs : List PayoutRequest) : Decidable (RequestsOK rs) := decidable_of_iff _ (requestsOK_iff rs).symm

/-- `payout_requests`, with its constraints. -/
abbrev RequestTable := { rs : List PayoutRequest // RequestsOK rs }

/-! ## Vendor commands -/

/-- `payout_vendor_commands.status` -/
inductive CommandStatus where
  | pending | processing | failed | completed | dead
  deriving DecidableEq, Repr

/-- The statuses of `idx_payout_vendor_commands_one_live`. -/
def CommandStatus.live : CommandStatus → Bool
  | pending | processing | failed => true
  | completed | dead => false

/-- `model.PayoutVendorCommand` -/
structure VendorCommand where
  id : UUID
  payoutRequestID : UUID
  vendor : String
  attempt : ℕ
  status : CommandStatus
  retryCount : ℕ
  maxRetries : ℕ
  nextAttemptAt : Option ℕ
  lockedAt : Option ℕ
  createdAt : ℕ
  deriving DecidableEq, Repr

/-- In work or still to be done. -/
abbrev VendorCommand.live (c : VendorCommand) : Bool := c.status.live

/-- The constraints of `payout_vendor_commands` on all of its rows. -/
@[mk_iff]
structure CommandsOK (cs : List VendorCommand) : Prop where
  attempt_positive : ∀ c ∈ cs, 0 < c.attempt
  max_retries_positive : ∀ c ∈ cs, 0 < c.maxRetries
  primary_key : (cs.map (·.id)).Nodup
  /-- `UNIQUE (payout_request_id, attempt)` -/
  attempt_unique : (cs.map fun c => (c.payoutRequestID, c.attempt)).Nodup
  /-- `idx_payout_vendor_commands_one_live` -/
  one_live : ((cs.filter (·.live)).map (·.payoutRequestID)).Nodup

instance (cs : List VendorCommand) : Decidable (CommandsOK cs) := decidable_of_iff _ (commandsOK_iff cs).symm

/-- The commands, with their constraints. -/
abbrev CommandTable := { cs : List VendorCommand // CommandsOK cs }

/-! ## Vendors -/

/-- `vendorgw.PayoutStatus`; an adapter can return any other text. -/
inductive PayoutStatus where
  | settled | pending | failed
  | other (text : String)
  deriving DecidableEq, Repr

/-- As the vendor reports it. -/
def PayoutStatus.name : PayoutStatus → String
  | settled => "settled"
  | pending => "pending"
  | failed => "failed"
  | other text => text

/-- `vendorgw.PayoutResult` -/
structure PayoutResult where
  vendorRef : String
  status : PayoutStatus
  reason : String
  deriving DecidableEq, Repr

/-- What `Submit` or `Query` returns. -/
abbrev VendorAnswer := Except String PayoutResult

/-- `payout_vendor_calls.outcome` -/
inductive Outcome where
  | accepted | rejected | uncertain
  deriving DecidableEq, Repr

/-- `model.PayoutVendorCall` -/
structure VendorCall where
  payoutRequestID : UUID
  attempt : ℕ
  respStatus : String
  error : String
  outcome : Outcome
  deriving DecidableEq, Repr

/-- `classifySubmitOutcome` -/
def classifySubmitOutcome : VendorAnswer → Outcome
  | .error _ => .uncertain
  | .ok result => if result.status = .failed then .rejected else .accepted

/-- `classifyQueryOutcome` -/
def classifyQueryOutcome : VendorAnswer → Outcome
  | .error _ => .uncertain
  | .ok _ => .accepted

/-- The row `recordVendorCall` inserts. -/
def vendorCall (requestID : UUID) (answer : VendorAnswer) (outcome : Outcome) : VendorCall where
  payoutRequestID := requestID
  attempt := 1
  respStatus := match answer with | .ok result => result.status.name | .error _ => ""
  error := match answer with | .ok _ => "" | .error e => e
  outcome := outcome

/-- `mayFailover` -/
def mayFailover (calls : List VendorCall) : Bool :=
  calls.all fun c => c.outcome ≠ .accepted ∧ c.outcome ≠ .uncertain

/-! ## Routing -/

/-- `model.RoutingRule` -/
structure RoutingRule where
  id : UUID
  flow : String
  priority : ℤ
  enabled : Bool
  currency : Option Currency
  minAmount : Option ℤ
  maxAmount : Option ℤ
  userID : Option UUID
  vendor : String
  deriving DecidableEq, Repr

/-- `model.RoutingCandidate` -/
structure RoutingCandidate where
  vendor : String
  gateway : String
  deriving DecidableEq, Repr

end Seev.Payout
