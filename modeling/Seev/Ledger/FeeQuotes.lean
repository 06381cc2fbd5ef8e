import Seev.Ledger.World

/-!
# Fee quotes and who spends them

Three services consume fee quotes: the ledger inside its posting transactions, and payout and payin by calls
of their own. The world has the postings of `World`, each with the quote it has consumed and not yet
committed, and beside them the standalone calls, one statement each.

* `Consumption`: a call, with the dimensions it asks for and the reference it leaves.
* `Consumption.consume`: the statement of its entry point, with the errors of the policy.
* `World.obtained`: the consumptions that have committed, with the fee each of them got.
-/

namespace Seev.Ledger

/-- A reference that a payin leaves. -/
def QuoteRef.isPayin : QuoteRef → Bool
  | .payin _ => true
  | _ => false

/-- `TryConsumeQuoteWithGateway`: the gateway is one more dimension, and only a payin gets its quote again. -/
def tryConsumeQuoteWithGateway (db : Db) (now : ℕ) (quoteID userID : UUID) (t : TxType) (gateway : String)
    (c : Currency) (amount : Decimal) (ref : QuoteRef) : Option FeeQuote :=
  match db.quotes quoteID with
  | some q =>
    if q.userID = userID ∧ q.transactionType = t ∧ q.gateway = gateway ∧ q.currency = c ∧
      (q.amount : ℚ) = amount ∧
        (q.open now ∨ ref.isPayin ∧ q.consumedBy = some ref) then some (q.consume now ref)
    else none
  | none => none

/-- `ConsumeQuoteWithGateway` -/
def consumeQuoteWithGateway (db : Db) (now : ℕ) (quoteID userID : UUID) (t : TxType) (gateway : String)
    (c : Currency) (amount : Decimal) (ref : QuoteRef) : Except Err FeeQuote :=
  match tryConsumeQuoteWithGateway db now quoteID userID t gateway c amount ref with
  | some q => .ok q
  | none =>
    if (getQuote db now quoteID userID).isSome then
      .error (.newBizErr .quoteMismatch "fee quote does not match this request")
    else .error (.newBizErr .quoteExpired "fee quote not found, expired, or already consumed")

namespace FeeQuotes

/-- One consumption. The callers that name a gateway are payins. -/
structure Consumption where
  quoteID : UUID
  userID : UUID
  transactionType : TxType
  gateway : Option String
  currency : Currency
  amount : Decimal
  ref : QuoteRef
  payin : gateway.isSome = true → ref.isPayin = true

namespace Consumption

variable (c : Consumption)

/-- The quote is for this user, type, currency and amount, and for this gateway, where bound. -/
def Matches (q : FeeQuote) : Prop :=
  q.userID = c.userID ∧ q.transactionType = c.transactionType ∧ q.currency = c.currency ∧
    (q.amount : ℚ) = c.amount ∧
    ∀ g ∈ c.gateway, q.gateway = g

/-- `ConsumeQuote`, or `ConsumeQuoteWithGateway` where a gateway is named. -/
def consume (db : Db) (now : ℕ) : Except Err FeeQuote :=
  match c.gateway with
  | none => consumeQuote db now c.quoteID c.userID c.transactionType c.currency c.amount c.ref
  | some g => consumeQuoteWithGateway db now c.quoteID c.userID c.transactionType g c.currency c.amount c.ref

/-- The consumption of a posting: `"tx:" + txID`. -/
def posting (rc : ResolvedCommand) (txID quoteID : UUID) : Consumption :=
  ⟨quoteID, rc.userID, rc.type, none, rc.currency, rc.amount, .tx txID, fun h => nomatch h⟩

end Consumption

/-! ## The world -/

/-- The ledger, with what the calls have obtained. -/
structure World where
  ledger : Ledger.World
  /-- the committed consumptions, with `fee_amount` and `fee_gateway` as returned -/
  obtained : List (Consumption × ℤ × String)

/-- What the three services do. -/
inductive Event where
  | ledger (e : Ledger.Event)
  /-- `ConsumeQuoteStandalone` or `ConsumeQuoteWithGatewayStandalone` -/
  | standalone (c : Consumption)
  /-- `CreateQuote`: a priced quote with a new id -/
  | create (quoteID userID : UUID) (t : TxType) (gateway : String) (currency : Currency) (amount fee : ℤ)
      (feeGateway : String) (expiresAt : ℕ)

namespace World

variable (E : Env) (w : World)

/-- What an event of the ledger commits. -/
def commits : Ledger.Event → Option (Consumption × ℤ × String)
  | .advance sid =>
    match w.ledger.sessions sid with
    | none => none
    | some s =>
      if s.phase = .commit ∨ s.phase = .commitFailed then
        s.writes.quote.map fun r => (.posting s.rc s.txID r.1, r.2.feeAmount, r.2.feeGateway)
      else none
  | _ => none

/-- The row of a quote is written. -/
def setQuote (quoteID : UUID) (q : FeeQuote) : World :=
  { w with ledger := { w.ledger with db := { w.ledger.db with
      quotes := Function.update w.ledger.db.quotes quoteID (some q) } } }

/-- A standalone call is one statement. -/
def step : Event → World
  | .ledger e => ⟨w.ledger.step E e, w.obtained ++ (w.commits e).toList⟩
  | .standalone c =>
    -- it waits for a posting that has the row
    if (w.ledger.locks (.quote c.quoteID)).isSome then w
    else match c.consume w.ledger.db w.ledger.now with
      | .error _ => w
      | .ok q => { w.setQuote c.quoteID q with obtained := w.obtained ++ [(c, q.feeAmount, q.feeGateway)] }
  | .create quoteID userID t gateway currency amount fee feeGateway expiresAt =>
    if (w.ledger.db.quotes quoteID).isSome then w
    else w.setQuote quoteID ⟨userID, t, gateway, currency, amount, fee, feeGateway, expiresAt, none, none⟩

/-- The call an event is a statement of, for a posting any of its statements. -/
def call : Event → Option Consumption
  | .ledger (.advance sid) =>
    match w.ledger.sessions sid with
    | none => none
    | some s =>
      if s.rc.quoteID = "" then none
      else match E.text.parseUUID s.rc.quoteID with
        | .error _ => none
        | .ok quoteID => some (.posting s.rc s.txID quoteID)
  | .standalone c => some c
  | _ => none

end World

end FeeQuotes

end Seev.Ledger
