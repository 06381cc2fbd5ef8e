import Seev.Payin.Basic

/-!
# Payin repository

The statements of `services/payin/internal/repository`, each one atomic on the
committed tables. A statement that fails leaves the tables as they were.
-/

namespace Seev.Payin

open Ledger (UUID Decimal Currency)

/-- The payin tables: `payin_webhook_events`, `payin_topup_intents` and
`payin_vendor_gateways`. -/
structure Db where
  events : List EventRow
  intents : List IntentRow
  gateways : String → Option String

namespace Db

/-- `GetVendorGateway` -/
def getVendorGateway (db : Db) (vendor : String) : Option String := db.gateways vendor

/-! ## Webhook events -/

/-- The defaults `GetOrInsert` puts on a row it stores and `scanEvent` on a row it read. -/
def withDefaults (ev : WebhookEvent) : WebhookEvent :=
  let ev := if ev.totalDebit = 0 then { ev with totalDebit := ev.amount } else ev
  if ev.feeApplication = "" then { ev with feeApplication := topupFeeApplicationAddedOnTop } else ev

/-- `getByVendorEventID` -/
def getByVendorEventID (db : Db) (vendor vendorEventID : String) : Option WebhookEvent :=
  (db.events.find? fun r => r.1.vendor = vendor ∧ r.1.vendorEventID = vendorEventID).map
    fun r => withDefaults r.1

/-- `Get` -/
def get (db : Db) (id : UUID) : Option WebhookEvent :=
  (db.events.find? fun r => r.1.id = id).map fun r => withDefaults r.1

/-- `GetOrInsert`: on a duplicate `(vendor, vendor_event_id)` the stored row comes back
as it is. The amounts pass for minor units, so `IntPart` stores their value. -/
def getOrInsert (db : Db) (ev : WebhookEvent) : Except String (Db × WebhookEvent) := do
  if !isMinorUnits ev.feeAmount then
    throw "insert payin webhook event: invalid fee amount"
  let ev := { withDefaults ev with status := .received }
  if ev.totalDebit ≠ ev.amount ∨ !ev.totalDebit.isInteger ∨ !Decimal.inInt64 ev.totalDebit.num then
    throw "insert payin webhook event: total debit must equal provider amount"
  if hchecks : ev.Checks then
    match db.getByVendorEventID ev.vendor ev.vendorEventID with
    | some existing => return (db, existing)
    | none =>
      -- a primary key that is taken is a duplicate key too, with no row to find
      if db.events.any (·.1.id = ev.id) then throw "lookup existing payin webhook event"
      return ({ db with events := db.events ++ [⟨ev, hchecks⟩] }, ev)
  else throw "insert payin webhook event"

/-- `UPDATE payin_webhook_events ... WHERE id = $1` -/
def updateEvent (db : Db) (id : UUID) (f : EventRow → EventRow) : Db :=
  { db with events := db.events.map fun r => if r.1.id = id then f r else r }

/-- `MarkPosted` -/
def markPosted (db : Db) (id : UUID) : Db :=
  db.updateEvent id fun r => r.mark .posted r.1.errorMessage

/-- `MarkFailed` and `MarkBlocked` cut the reason to 500 bytes; a cut inside a character
is no valid text. -/
def markRejected (db : Db) (id : UUID) (status : EventStatus) (reason : String) : Except String Db :=
  match Ledger.truncateMessage reason with
  | none => .error "invalid byte sequence for encoding"
  | some msg => .ok (db.updateEvent id fun r => r.mark status msg)

/-- `MarkFailed` -/
def markFailed (db : Db) (id : UUID) (reason : String) : Except String Db :=
  db.markRejected id .failed reason

/-- `MarkBlocked` -/
def markBlocked (db : Db) (id : UUID) (reason : String) : Except String Db :=
  db.markRejected id .blocked reason

/-! ## Top-up intents -/

/-- A unique index of `payin_topup_intents` keeps the two intents apart. -/
def conflicts (a b : TopupIntent) : Bool :=
  a.id = b.id || a.reference = b.reference || (a.feeQuoteID.isSome && a.feeQuoteID = b.feeQuoteID)

/-- The insert of both kinds of intent: always `pending`, never settled. -/
def insertIntent (db : Db) (i : TopupIntent) : Except String Db :=
  let i := { i.normalizeFinancials with status := .pending, settledEventID := none }
  if !isMinorUnits i.amount ∨ !isMinorUnits i.feeAmount ∨ !isMinorUnits i.totalDebit then
    .error "payin: money amount must be a non-negative integer within int64"
  else if hchecks : i.Checks then
    if db.intents.any (fun r => conflicts r.1 i) then .error "insert payin topup intent"
    else .ok { db with intents := db.intents ++ [⟨i, hchecks⟩] }
  else .error "insert payin topup intent"

/-- `InsertTopupIntent` leaves `downstream_key` null. -/
def insertTopupIntent (db : Db) (i : TopupIntent) : Except String Db :=
  db.insertIntent { i with downstreamKey := "" }

/-- `InsertMerchantTopupIntent`: `ON CONFLICT (merchant_tenant_id, downstream_key) DO
NOTHING`, then the row under that key. -/
def insertMerchantTopupIntent (db : Db) (i : TopupIntent) : Except String (Db × TopupIntent) :=
  if i.downstreamKey = "" then .error "insert merchant payin topup intent: downstream key is required"
  else
    match db.intents.find? fun r =>
      r.1.merchantTenantID = i.merchantTenantID ∧ r.1.downstreamKey = i.downstreamKey with
    | some r => .ok (db, r.1.normalizeFinancials)
    | none => (db.insertIntent i).map fun db' =>
        (db', { i.normalizeFinancials with status := .pending, settledEventID := none })

/-- `GetTopupIntent` -/
def getTopupIntent (db : Db) (id : UUID) : Option TopupIntent :=
  (db.intents.find? fun r => r.1.id = id).map fun r => r.1.normalizeFinancials

/-- `GetTopupIntentByReference` -/
def getTopupIntentByReference (db : Db) (reference : String) : Option TopupIntent :=
  (db.intents.find? fun r => r.1.reference = reference).map fun r => r.1.normalizeFinancials

/-- `GetTopupIntentByFeeQuoteID` -/
def getTopupIntentByFeeQuoteID (db : Db) (quoteID : UUID) : Option TopupIntent :=
  (db.intents.find? fun r => r.1.feeQuoteID = some quoteID).map fun r => r.1.normalizeFinancials

/-- `UPDATE payin_topup_intents ... WHERE cond` -/
def updateIntents (db : Db) (cond : TopupIntent → Bool) (f : IntentRow → IntentRow) : Db :=
  { db with intents := db.intents.map fun r => if cond r.1 then f r else r }

/-- `MarkTopupIntentSettled` -/
def markTopupIntentSettled (db : Db) (reference : String) (eventID : UUID) : Db :=
  db.updateIntents (fun i => i.reference = reference ∧ i.status = .pending) fun r =>
    r.mark .settled (some eventID)

/-- `MarkTopupIntentExpired` -/
def markTopupIntentExpired (db : Db) (id : UUID) : Db :=
  db.updateIntents (fun i => i.id = id ∧ i.status = .pending) fun r => r.mark .expired r.1.settledEventID

/-- The row `UpdateTopupFeeSnapshot` writes. -/
def withFeeSnapshot (i : TopupIntent) (fee totalDebit : Decimal) (feeGateway : String) (consumedAt : ℕ) :
    TopupIntent :=
  { i with
    feeAmount := fee, totalDebit := totalDebit, feeGateway := feeGateway
    feeQuoteConsumedAt := i.feeQuoteConsumedAt.or (some consumedAt) }

/-- `UpdateTopupFeeSnapshot`: the first snapshot stays, the same one may be written
again. -/
def updateTopupFeeSnapshot (db : Db) (id quoteID : UUID) (fee totalDebit : Decimal) (feeGateway : String)
    (consumedAt : ℕ) : Except String Db :=
  if !isMinorUnits fee ∨ !isMinorUnits totalDebit then
    .error "payin: money amount must be a non-negative integer within int64"
  else
    let cond := fun i : TopupIntent =>
      i.id = id ∧ i.feeQuoteID = some quoteID ∧ i.status = .pending ∧
        (i.feeQuoteConsumedAt = none ∨
          (i.feeAmount = fee ∧ i.totalDebit = totalDebit ∧ i.feeGateway = feeGateway))
    match db.intents.find? fun r => cond r.1 with
    | none => .error "update payin topup fee snapshot: intent is not pending or quote does not match"
    | some r =>
      if hchecks : (withFeeSnapshot r.1 fee totalDebit feeGateway consumedAt).Checks then
        .ok (db.updateIntents cond fun _ => ⟨withFeeSnapshot r.1 fee totalDebit feeGateway consumedAt, hchecks⟩)
      else .error "update payin topup fee snapshot"

end Db

end Seev.Payin
