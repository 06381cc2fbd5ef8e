import Seev.Payin.Callback

/-!
# Top-up intents

`createTopupIntent`, `CreateMerchantTopupIntent` and `completeQuotedIntent` between
their statements. What intake control, routing and the ledger answer to a call is a
parameter of the call (`Answers`); the session opened at the vendor afterwards writes no
payin table and is left out.
-/

namespace Seev.Payin

open Ledger (UUID Decimal Currency Text)

/-- The configuration of the module. -/
structure Env where
  text : Text
  /-- `topupTTL`, in seconds -/
  topupTTL : ℤ
  /-- `fraudClient` is not nil -/
  fraudClient : Bool

/-- The time an intent stays open: 24 hours unless configured. -/
def Env.ttl (E : Env) : ℕ := if E.topupTTL ≤ 0 then 24 * 60 * 60 else E.topupTTL.toNat

/-- The parameters of `createTopupIntent`. -/
structure TopupRequest where
  userID : UUID
  amount : Decimal
  requestedCurrency : Currency
  quoteID : Option UUID

/-- The parameters of `CreateMerchantTopupIntent`; the environment decides the route. -/
structure MerchantTopupRequest where
  tenantID : UUID
  currency : Currency
  amount : Decimal
  downstreamKey : String

/-- What other components answer during one call, and the ids it draws. -/
structure Answers where
  /-- `ensureIntakeOpen` -/
  intakeOpen : Except String Unit
  /-- `GetUserCurrency` -/
  userCurrency : Except String Currency
  /-- `ValidateCurrency` -/
  validateCurrency : Except String Unit
  /-- `UserCurrencyEnabled` -/
  userCurrencyEnabled : Except String Bool
  /-- `ResolveTopupRoute`, or `resolveMerchantVendor` with the vendor's mapping -/
  route : Except String (String × String)
  /-- `ResolveFee`, when a rule matched -/
  resolveFee : Except String (Option (Decimal × String))
  intentID : UUID
  reference : UUID

/-- An answer of another component, with its error put in context. -/
def answered {α : Type} (ctx : String) (x : Except String α) : Except Failure α :=
  x.mapError fun e => .plain (ctx ++ e)

/-- `resolveTopupFinancials` without a quote. -/
def resolveTopupFee (ans : Answers) : Except Failure (Decimal × String) := do
  match ← answered "payin: resolve topup fee: " ans.resolveFee with
  | none => return (0, "")
  | some (fee, feeGateway) =>
    if !isMinorUnits fee then throw (.plain "payin: Ledger returned an invalid topup fee")
    return (fee, feeGateway)

/-- The fee of an intent without a quote: a fee has to be quoted. -/
def unquotedFee (subject : String) (ans : Answers) : Except Failure (Decimal × String) := do
  let (fee, feeGateway) ← resolveTopupFee ans
  if 0 < fee then
    throw (.plain ("payin: topup fee quote required: non-zero " ++ subject
      ++ " fees require a valid fee quote"))
  return (fee, feeGateway)

/-- The currency of a user's top-up. -/
def topupCurrency (req : TopupRequest) (ans : Answers) : Except Failure Currency :=
  if req.requestedCurrency ≠ "" then
    if !Ledger.validateCode req.requestedCurrency then
      .error (.plain ("payin: invalid currency: invalid currency: "
        ++ "code must contain exactly three uppercase ASCII letters"))
    else .ok req.requestedCurrency
  else answered "payin: resolve user currency: " ans.userCurrency

/-- `createTopupIntent` up to the insert. A quoted intent starts without its fee. -/
def newTopupIntent (E : Env) (now : ℕ) (req : TopupRequest) (ans : Answers) : Except Failure TopupIntent := do
  if req.userID = UUID.nil then throw (.plain "payin: invalid minor-unit amount: user id is required")
  answered "payin: invalid minor-unit amount: " (validatePositiveMinorAmount req.amount)
  answered "" ans.intakeOpen
  let currency ← topupCurrency req ans
  answered "payin: currency policy: " ans.validateCurrency
  if !(← answered "payin: check currency account: " ans.userCurrencyEnabled) then
    throw (.plain ("[CURRENCY_NOT_ENABLED] currency account is not enabled: " ++ currency))
  let (vendor, gateway) ← answered "" ans.route
  let (fee, feeGateway) ← if req.quoteID.isSome then pure (0, "") else unquotedFee "top-up" ans
  if !Decimal.inInt64 (req.amount + fee).num then throw (.plain "payin: topup total debit exceeds int64")
  return {
    id := ans.intentID
    reference := "TOP-" ++ E.text.uuidString ans.reference
    userID := req.userID, merchantTenantID := UUID.nil
    amount := req.amount, feeAmount := fee, totalDebit := req.amount + fee, feeGateway := feeGateway
    feeQuoteID := req.quoteID, feeApplication := topupFeeApplicationAddedOnTop
    feeQuoteConsumedAt := none
    currency := currency, vendor := vendor, gateway := gateway
    status := .pending, settledEventID := none, downstreamKey := ""
    expiresAt := now + E.ttl }

/-- `CreateMerchantTopupIntent` up to the insert. -/
def newMerchantTopupIntent (E : Env) (now : ℕ) (req : MerchantTopupRequest) (ans : Answers) :
    Except Failure TopupIntent := do
  if req.tenantID = UUID.nil then throw (.plain "payin: tenantID is required")
  if req.downstreamKey = "" then throw (.plain "payin: downstreamKey is required")
  answered "payin: invalid minor-unit amount: " (validatePositiveMinorAmount req.amount)
  answered "" ans.intakeOpen
  if !Ledger.validateCode req.currency then
    throw (.plain ("payin: invalid currency: invalid currency: "
      ++ "code must contain exactly three uppercase ASCII letters"))
  answered "payin: currency policy: " ans.validateCurrency
  let (vendor, gateway) ← answered "" ans.route
  let (fee, feeGateway) ← unquotedFee "merchant top-up" ans
  if !Decimal.inInt64 (req.amount + fee).num then
    throw (.plain "payin: merchant topup total debit exceeds int64")
  return {
    id := ans.intentID
    reference := "TOP-" ++ E.text.uuidString ans.reference
    userID := UUID.nil, merchantTenantID := req.tenantID
    amount := req.amount, feeAmount := fee, totalDebit := req.amount + fee, feeGateway := feeGateway
    feeQuoteID := none, feeApplication := topupFeeApplicationAddedOnTop
    feeQuoteConsumedAt := none
    currency := req.currency, vendor := vendor, gateway := gateway
    status := .pending, settledEventID := none, downstreamKey := req.downstreamKey
    expiresAt := now + E.ttl }

/-- A retry with the same quote goes on with the intent that holds it. -/
def recoverQuotedIntent (intent existing : TopupIntent) : Except Failure TopupIntent :=
  if existing.userID ≠ intent.userID ∨ existing.currency ≠ intent.currency ∨
      existing.amount ≠ intent.amount then
    .error (.plain "payin: fee quote is already bound to a different topup intent")
  else .ok existing

/-- `completeQuotedIntent` has nothing left to do. -/
def TopupIntent.quoteComplete (i : TopupIntent) : Bool :=
  i.feeQuoteConsumedAt.isSome && decide (i.totalDebit ≠ 0)

/-- The gateway the quote is consumed with. -/
def quoteGateway (db : Db) (intent : TopupIntent) : Except Failure String :=
  if intent.gateway = "" ∧ intent.vendor ≠ "" then
    match db.getVendorGateway intent.vendor with
    | none =>
      .error (.plain ("payin: recover topup gateway mapping: vendor " ++ Ledger.quote intent.vendor
        ++ " has no gateway"))
    | some gateway => .ok gateway
  else .ok intent.gateway

/-- The total of an intent whose quote was consumed with fee `fee`. -/
def quotedTotal (intent : TopupIntent) (fee : Decimal) : Except Failure Decimal :=
  if !isMinorUnits fee then .error (.plain "payin: Ledger returned an invalid topup fee")
  else if !Decimal.inInt64 (intent.amount + fee).num then
    .error (.plain "payin: topup total debit exceeds int64")
  else .ok (intent.amount + fee)

end Seev.Payin
