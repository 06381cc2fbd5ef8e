import Seev.Payout.Repository

/-!
# Routing, checks and ledger commands

The parts of the payout calls that touch no table but those of routing: the checks of
`create` and `CreateMerchant`, `ResolvePayoutRoute`, and the commands `hold`, `settle` and
`cancel` send to the ledger. What intake control, the ledger and the fraud service answer
during the checks is a parameter (`Answers`). The calls that string these together, one
statement at a time, are in `Seev.Payout.World`.
-/

namespace Seev.Payout

open Ledger (UUID Decimal Currency Text Command Metadata FeeQuote)
open Payin (validatePositiveMinorAmount)

/-- What does not change over a run: the configuration of the module, and the vendors. -/
structure Env where
  text : Text
  /-- `registry.Payout(vendor)` finds a provider -/
  registered : String → Bool
  /-- the provider declares the currency for payouts -/
  supportsCurrency : String → Currency → Bool
  /-- `fraudClient` is not nil -/
  fraudClient : Bool
  /-- the definitive answer of a vendor to every `Submit` of a request id that reaches it -/
  accepts : String → UUID → Bool

/-! ## Routing -/

/-- Why there is no vendor. -/
inductive RouteError where
  | noRoute | noVendorAvailable | currencyRouteUnavailable
  deriving DecidableEq, Repr

/-- The text of the error. -/
def RouteError.text : RouteError → String
  | noRoute => "payout: no route"
  | noVendorAvailable => "payout: no vendor available"
  | currencyRouteUnavailable => "[CURRENCY_ROUTE_UNAVAILABLE] no payout route declares the requested currency"

/-- `vendorgw.SupportsRequestedCurrency` -/
def Env.supportsRequestedCurrency (E : Env) (vendor : String) (currency : Currency) : Bool :=
  currency = "" || currency = "IDR" || E.supportsCurrency vendor currency

section Route

variable (E : Env) (db : Db)
  /- `breaker.Allow`, or always true without a breaker -/
  (allow : String → Bool)

/-- The loop of `ResolvePayoutRoute` over the candidates, with its two flags. -/
def routeLoop (currency : Currency) (exclude : List String) :
    List RoutingCandidate → Bool → Bool → Except RouteError RoutingCandidate
  | [], mismatch, capable =>
    if currency ≠ "" ∧ currency ≠ "IDR" ∧ mismatch ∧ !capable then .error .currencyRouteUnavailable
    else .error .noVendorAvailable
  | c :: cs, mismatch, capable =>
    if c.vendor ∈ exclude then routeLoop currency exclude cs mismatch capable
    else if !E.registered c.vendor then routeLoop currency exclude cs mismatch capable
    else if !E.supportsRequestedCurrency c.vendor currency then routeLoop currency exclude cs true capable
    else if !allow c.vendor then routeLoop currency exclude cs mismatch true
    else .ok c

/-- `ResolvePayoutRoute` -/
def resolvePayoutRoute (userID : UUID) (currency : Currency) (amount : Decimal) (exclude : List String) :
    Except RouteError RoutingCandidate :=
  match db.resolveCandidates "payout" userID currency amount.intPart with
  | [] => .error .noRoute
  | candidates => routeLoop E allow currency exclude candidates false false

/-- The only vendor of a sandbox tenant. -/
def sandboxVendor : String := "mockvendor"

/-- `resolveMerchantVendor` -/
def resolveMerchantVendor (environment : String) (currency : Currency) (amount : Decimal) :
    Except String String :=
  if environment = "sandbox" then
    if !E.registered sandboxVendor then .error "payout: sandbox vendor unavailable"
    else if !E.supportsRequestedCurrency sandboxVendor currency then
      .error RouteError.currencyRouteUnavailable.text
    else .ok sandboxVendor
  else
    match resolvePayoutRoute E db allow UUID.nil currency amount [] with
    | .ok c => .ok c.vendor
    | .error e => .error e.text

end Route

/-- `gatewayForVendor` -/
def gatewayForVendor (db : Db) (vendor : String) : Except String String :=
  match db.getVendorGateway vendor with
  | none => .error ("payout: vendor " ++ Ledger.quote vendor ++ " has no gateway mapping configured")
  | some gateway => .ok gateway

/-! ## The checks of the two create calls -/

/-- The parameters of `create`. -/
structure CreateRequest where
  userID : UUID
  amount : Decimal
  requestedCurrency : Currency
  quoteID : String

/-- The parameters of `CreateMerchant`. -/
structure MerchantRequest where
  tenantID : UUID
  environment : String
  currency : Currency
  amount : Decimal
  downstreamKey : String

/-- The fraud service's answer. -/
inductive Screening where
  | allow
  | block (reason : String)
  | dependencyUnavailable
  | error
  deriving DecidableEq, Repr

/-- What other components answer during the checks of one call. -/
structure Answers where
  /-- `ensureIntakeOpen` -/
  intakeOpen : Except String Unit
  /-- `GetUserCurrency` -/
  userCurrency : Except String Currency
  /-- `ValidateCurrency` -/
  validateCurrency : Except String Unit
  /-- `UserCurrencyEnabled` -/
  userCurrencyEnabled : Except String Bool
  /-- `fraudClient.Check` -/
  screening : Screening

/-- An answer of another component, with its error put in context. -/
def answered {α : Type} (ctx : String) (x : Except String α) : Except String α :=
  x.mapError fun e => ctx ++ e

/-- `currencyreg.ValidateCode` -/
def validateCode (currency : Currency) : Except String Unit :=
  if Ledger.validateCode currency then .ok ()
  else .error "invalid currency: code must contain exactly three uppercase ASCII letters"

/-- The fraud check of `create`: an error of the service does not stop the payout. -/
def screen (E : Env) (ans : Answers) : Except String Unit :=
  if !E.fraudClient then .ok ()
  else
    match ans.screening with
    | .allow | .error => .ok ()
    | .block reason => .error ("payout: screening blocked: " ++ reason)
    | .dependencyUnavailable => .error "payout: screening dependency unavailable"

/-- `create` up to the choice of a vendor: the currency of the payout. -/
def checkCreate (E : Env) (req : CreateRequest) (ans : Answers) : Except String Currency := do
  answered "payout: invalid minor-unit amount: " (validatePositiveMinorAmount req.amount)
  ans.intakeOpen
  if req.requestedCurrency ≠ "" then
    answered "payout: invalid currency: " (validateCode req.requestedCurrency)
  let currency ←
    if req.requestedCurrency = "" then answered "payout: resolve user currency: " ans.userCurrency
    else pure req.requestedCurrency
  answered "payout: currency policy: " ans.validateCurrency
  if !(← answered "payout: check currency account: " ans.userCurrencyEnabled) then
    throw ("[CURRENCY_NOT_ENABLED] currency account is not enabled: " ++ currency)
  screen E ans
  return currency

/-- `CreateMerchant` up to the choice of a vendor. -/
def checkCreateMerchant (req : MerchantRequest) (ans : Answers) : Except String Unit := do
  if req.tenantID = UUID.nil then throw "payout: tenantID is required"
  if req.downstreamKey = "" then throw "payout: downstreamKey is required"
  answered "payout: invalid minor-unit amount: " (validatePositiveMinorAmount req.amount)
  ans.intakeOpen
  answered "payout: invalid currency: " (validateCode req.currency)
  answered "payout: currency policy: " ans.validateCurrency

/-- A request before it is stored. -/
def newRequest (id userID tenantID : UUID) (amount : Decimal) (currency : Currency)
    (vendor downstreamKey : String) : PayoutRequest where
  id := id
  userID := userID
  merchantTenantID := tenantID
  amount := amount
  currency := currency
  vendor := vendor
  status := .created
  holdTxID := none
  settleTxID := none
  vendorRef := none
  errorMessage := ""
  feeQuoteID := none
  feeAmount := none
  feeGateway := ""
  downstreamKey := downstreamKey
  updatedAt := 0

/-! ## The ledger's fee quotes -/

/-- The constraints of `fee_quotes`: `BIGINT` columns, a positive amount and a fee below it. -/
def QuoteChecks (q : FeeQuote) : Prop :=
  0 < q.amount ∧ Decimal.inInt64 q.amount = true ∧ 0 ≤ q.feeAmount ∧ q.feeAmount < q.amount

instance (q : FeeQuote) : Decidable (QuoteChecks q) := inferInstanceAs (Decidable (_ ∧ _ ∧ _ ∧ _))

/-- `ConsumeFeeQuote` of the ledger, for a withdrawal: the updated row. -/
def consumeFeeQuote (quotes : UUID → Option FeeQuote) (now : ℕ) (req : PayoutRequest) (quoteID : UUID) :
    Except String FeeQuote :=
  match quotes quoteID with
  | none => .error "[QUOTE_EXPIRED] fee quote not found, expired, or already consumed"
  | some q =>
    let ref : Ledger.QuoteRef := .payout req.id
    if q.userID = req.userID ∧ q.transactionType = .withdrawSettle ∧ q.currency = req.currency ∧
        (q.amount : ℚ) = req.amount ∧ (q.open now ∨ q.consumedBy = some ref) then
      .ok (q.consume now ref)
    else if q.userID = req.userID ∧ q.open now then
      .error "[QUOTE_MISMATCH] fee quote does not match this request"
    else .error "[QUOTE_EXPIRED] fee quote not found, expired, or already consumed"

/-! ## Ledger commands -/

/-- The three commands payout sends, by what they do to the hold. -/
inductive CommandKind where
  | hold | settle | cancel
  deriving DecidableEq, Repr

/-- As the errors have it. -/
def CommandKind.name : CommandKind → String
  | hold => "hold"
  | settle => "settle"
  | cancel => "cancel"

/-- The command type for a user and for a merchant. -/
def CommandKind.type (k : CommandKind) (merchant : Bool) : Ledger.TxType :=
  match k, merchant with
  | hold, false => .withdrawInitiate
  | hold, true => .merchantPayoutHold
  | settle, false => .withdrawSettle
  | settle, true => .merchantPayoutSettle
  | cancel, false => .withdrawCancel
  | cancel, true => .merchantPayoutCancel

/-- The idempotency scope of the service. -/
def payoutScope : String := "payout"

/-- `holdIdempotencyKey`, `settleIdempotencyKey` and `cancelIdempotencyKey` -/
def idempotencyKey (T : Text) (k : CommandKind) (id : UUID) : String :=
  "payout:" ++ T.uuidString id ++ ":" ++ k.name

/-- The command of `hold`, `settle` or `cancel` on a request. -/
def ledgerCommand (T : Text) (k : CommandKind) (req : PayoutRequest) (referenceID : UUID) (metadata : Metadata) :
    Command where
  idempotencyScope := payoutScope
  idempotencyKey := idempotencyKey T k req.id
  type := k.type (req.merchantTenantID ≠ UUID.nil)
  amount := req.amount
  userID := if req.merchantTenantID ≠ UUID.nil then UUID.nil else req.userID
  targetUserID := UUID.nil
  pocketCode := ""
  currency := req.currency
  referenceID := referenceID
  metadata := metadata
  quoteID := ""
  merchantTenantID := req.merchantTenantID

/-- The command of `hold`. -/
def holdCommand (T : Text) (req : PayoutRequest) : Command :=
  ledgerCommand T .hold req UUID.nil (Metadata.empty.set .currencyInflight (.bool true))

/-- The metadata of `settle` and `cancel`; `fee` is there when settle charges one. -/
def closeMetadata (T : Text) (gateway : String) (fee : Option (Decimal × String)) : Metadata :=
  let m := (Metadata.empty.set .gateway (.str gateway)).set .currencyInflight (.bool true)
  match fee with
  | none => m
  | some (amount, feeGateway) =>
    (m.set .feeAmount (.str (T.decimalString amount))).set .feeGateway (.str feeGateway)

/-- The command of `settle` or `cancel`. -/
def closeCommand (T : Text) (k : CommandKind) (req : PayoutRequest) (holdTxID : UUID) (gateway : String)
    (fee : Option (Decimal × String)) : Command :=
  ledgerCommand T k req holdTxID (closeMetadata T gateway fee)

/-- The fee `settle` charges on a request with a quote: the stored one, if positive. -/
def quotedFee (req : PayoutRequest) : Option (Decimal × String) :=
  match req.feeAmount with
  | some fee => if 0 < fee then some (fee, req.feeGateway) else none
  | none => none

end Seev.Payout
