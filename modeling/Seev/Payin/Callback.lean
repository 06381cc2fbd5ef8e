import Seev.Payin.Repository

/-!
# `HandleVendorCallback` and `postAndFinalize`

The parts of the two entry points that touch no table: the checks on a normalized
callback, its correlation with a top-up intent, the financial snapshot of an event and
the ledger command built from it. The calls that string them together, one statement
at a time, are in `Seev.Payin.World`.
-/

namespace Seev.Payin

open Ledger (UUID Decimal Currency Text Command Metadata MetaValue)

/-- An error of payin. `business` marks a `businessError`, which redelivery does not heal. -/
structure Failure where
  text : String
  business : Bool
  deriving DecidableEq, Repr

/-- An error that a redelivery may heal. -/
def Failure.plain (text : String) : Failure := ⟨text, false⟩

/-- `businessError` -/
def Failure.businessError (text : String) : Failure := ⟨text, true⟩

/-! ## The callback -/

/-- The callback `VendorService` delivers, normalized. -/
structure Callback where
  vendor : String
  vendorEventID : String
  externalReference : String
  amountRaw : String
  currency : Currency
  status : String
  unknownStatus : String
  deriving DecidableEq, Repr

/-- What a callback came to. -/
inductive VendorCallbackOutcome where
  | finalized | alreadyFinalized | ignored | recordedUnmatched
  deriving DecidableEq, Repr

/-- The checks on currency and amount; the amount is the result. -/
def checkCallback (T : Text) (cb : Callback) : Except Failure Decimal :=
  if !Ledger.validateCode cb.currency then
    .error (.plain ("payin: invalid normalized callback currency: invalid currency: "
      ++ "code must contain exactly three uppercase ASCII letters"))
  else
    match T.newFromString cb.amountRaw with
    | .error _ => .error (.plain "payin: invalid normalized callback amount")
    | .ok amount =>
      match validatePositiveMinorAmount amount with
      | .error _ => .error (.plain "payin: invalid normalized callback amount")
      | .ok _ => .ok amount

/-- The event of a callback before it is matched. -/
def callbackEvent (id : UUID) (cb : Callback) (amount : Decimal) : WebhookEvent where
  id := id
  vendor := cb.vendor
  vendorEventID := cb.vendorEventID
  externalRef := cb.externalReference
  userID := UUID.nil
  merchantTenantID := UUID.nil
  amount := amount
  feeAmount := 0
  totalDebit := 0
  feeGateway := ""
  feeQuoteID := none
  feeApplication := ""
  currency := cb.currency
  status := .received
  errorMessage := ""

/-- The `switch` on the intent that was read; empty when the callback matches it. -/
def unmatchedReason (now : ℕ) (cb : Callback) (amount : Decimal) : Option TopupIntent → String
  | none => "no matching payin intent"
  | some intent =>
    if intent.vendor ≠ cb.vendor then "callback vendor does not match payin intent"
    else if intent.status ≠ .pending then "payin intent is not pending: " ++ intent.status.name
    else if intent.expiresAt ≤ now then "payin intent expired"
    else if intent.totalDebit ≠ amount ∨ intent.currency ≠ cb.currency then
      "callback amount or currency does not match payin intent"
    else ""

/-- The owner and the settlement snapshot of the matched intent, on the event. -/
def WebhookEvent.ofIntent (ev : WebhookEvent) (intent : TopupIntent) : WebhookEvent :=
  { ev with
    userID := intent.userID, merchantTenantID := intent.merchantTenantID
    feeAmount := intent.feeAmount, totalDebit := intent.totalDebit
    feeGateway := intent.feeGateway, feeQuoteID := intent.feeQuoteID
    feeApplication := intent.feeApplication }

/-- The event to store and the reason it is unmatched, if any. -/
def correlate (now : ℕ) (id : UUID) (cb : Callback) (amount : Decimal) (intent : Option TopupIntent) :
    WebhookEvent × String :=
  let event := callbackEvent id cb amount
  match intent.map TopupIntent.normalizeFinancials with
  | none => (event, unmatchedReason now cb amount none)
  | some intent =>
    let reason := unmatchedReason now cb amount (some intent)
    if reason = "" then (event.ofIntent intent, "") else (event, reason)

/-- The reason a callback that is not settled is recorded with. -/
def nonTerminalReason (cb : Callback) : String :=
  if cb.unknownStatus ≠ "" then "unknown vendor status: " ++ cb.unknownStatus else "non-terminal vendor status"

/-! ## The post step -/

/-- The local variables of `postAndFinalize` before the command is built. -/
structure Financials where
  gateway : String
  principalAmount : Decimal
  feeAmount : Decimal
  totalDebit : Decimal
  feeGateway : String
  feeApplication : String
  payinID : UUID
  feeQuoteID : Option UUID
  deriving DecidableEq, Repr

/-- The financial snapshot of an event. Only an event without a total looks up its
intent, and only that branch knows the intent's id. -/
def financials (db : Db) (ev : WebhookEvent) (gateway : String) : Except Failure Financials :=
  if ev.totalDebit ≠ 0 then
    if ev.totalDebit < 0 ∨ ev.feeAmount < 0 ∨ ev.totalDebit ≤ ev.feeAmount then
      .error (.businessError "payin: invalid topup financial snapshot")
    else
      .ok { gateway := gateway, principalAmount := ev.totalDebit - ev.feeAmount, feeAmount := ev.feeAmount
            totalDebit := ev.totalDebit, feeGateway := ev.feeGateway
            feeApplication :=
              if ev.feeApplication ≠ "" then ev.feeApplication else topupFeeApplicationAddedOnTop
            payinID := UUID.nil, feeQuoteID := ev.feeQuoteID }
  else
    let legacy : Financials :=
      { gateway := gateway, principalAmount := ev.amount, feeAmount := 0, totalDebit := ev.amount
        feeGateway := "", feeApplication := topupFeeApplicationAddedOnTop
        payinID := UUID.nil, feeQuoteID := none }
    if ev.externalRef = "" then .ok legacy
    else
      match db.getTopupIntentByReference ev.externalRef with
      | none => .ok legacy
      | some intent =>
        let intent := intent.normalizeFinancials
        if intent.totalDebit ≠ ev.amount ∨ intent.currency ≠ ev.currency then
          .error (.businessError "payin: settled amount no longer matches topup financial snapshot")
        else
          .ok { gateway := if intent.gateway ≠ "" then intent.gateway else gateway
                principalAmount := intent.amount, feeAmount := intent.feeAmount
                totalDebit := intent.totalDebit, feeGateway := intent.feeGateway
                feeApplication :=
                  if intent.feeApplication ≠ "" then intent.feeApplication
                  else topupFeeApplicationAddedOnTop
                payinID := intent.id, feeQuoteID := intent.feeQuoteID }

/-- The idempotency scope and key: the intent's when it is known, the event's otherwise. -/
def idempotency (T : Text) (ev : WebhookEvent) (payinID : UUID) : String × String :=
  if payinID ≠ UUID.nil then ("payin:" ++ T.uuidString payinID, "payin:" ++ T.uuidString payinID)
  else ("payin:" ++ ev.vendor, "payin:" ++ ev.vendor ++ ":" ++ ev.vendorEventID)

/-- `m[key] = value` unless the value is absent. -/
def setSome (m : Metadata) (key : Ledger.MetaKey) : Option MetaValue → Metadata
  | none => m
  | some v => m.set key v

/-- The metadata of the command, without the fee gateway. -/
def commandMetadata (T : Text) (ev : WebhookEvent) (f : Financials) : Metadata :=
  let m := Metadata.empty
    |>.set .gateway (.str f.gateway)
    |>.set .externalRef (.str ev.externalRef)
    |>.set .currencyInflight (.bool true)
    |>.set .providerReference (.str ev.externalRef)
    |>.set .currency (.str ev.currency)
    |>.set .totalDebit (.str (T.decimalString f.totalDebit))
    |>.set .feeAmount (.str (T.decimalString f.feeAmount))
    |>.set .feeApplication (.str f.feeApplication)
  let m := setSome m .payinID (if f.payinID ≠ UUID.nil then some (.str (T.uuidString f.payinID)) else none)
  setSome m .feeQuoteID (f.feeQuoteID.map fun id => .str (T.uuidString id))

/-- The ledger command of an event: `money_in`, or `merchant_payin_credit` of the whole
total for a merchant. -/
def buildCommand (T : Text) (ev : WebhookEvent) (f : Financials) : Except Failure Command :=
  if 0 < f.feeAmount ∧ f.feeGateway = "" then
    .error (.businessError "payin: topup fee snapshot has no fee gateway")
  else
    let isMerchant := ev.merchantTenantID ≠ UUID.nil
    let m := commandMetadata T ev f
    .ok { idempotencyScope := (idempotency T ev f.payinID).1
          idempotencyKey := (idempotency T ev f.payinID).2
          type := if isMerchant then .merchantPayinCredit else .moneyIn
          amount := if isMerchant then f.totalDebit else f.principalAmount
          userID := if isMerchant then UUID.nil else ev.userID
          targetUserID := UUID.nil
          pocketCode := ""
          currency := ev.currency
          referenceID := UUID.nil
          metadata := if 0 < f.feeAmount then m.set .feeGateway (.str f.feeGateway) else m
          quoteID := ""
          merchantTenantID := ev.merchantTenantID }

/-- The command as `Server.Post` hands it to the ledger: `Client.Post` sends the amount and
the ids as text, which reads back as it was, and the server adds the request id of the call. -/
def serverCommand (requestID : String) (cmd : Command) : Command :=
  if requestID = "" then cmd else { cmd with metadata := cmd.metadata.set .requestID (.str requestID) }

/-! ## What the ledger's error means -/

/-- An error of `Post`: a `LedgerError` has a code, any other error none. -/
structure PostError where
  code : Option String
  message : String
  deriving DecidableEq, Repr

/-- `err.Error()` -/
def PostError.text (e : PostError) : String :=
  match e.code with
  | some code => "[" ++ code ++ "] " ++ e.message
  | none => e.message

/-- The ledger had posted it before. -/
def isLedgerAlreadyPosted (e : PostError) : Bool := e.code = some "ALREADY_POSTED"

/-- The ledger has refused for good. -/
def isBusinessFailure (e : PostError) : Bool := e.code.isSome

end Seev.Payin
